/-
# What inserts leave of the records put in

Where several records of one file are put in, the last one counts: a record that stands at the
file's path afterwards is that one, under the identifier of its slot.  Where duplicates take each
other's stead, the same holds of several records of one identifier.
-/
import Mathlib.Data.List.Induction
import WallpaperRotation.Proofs.Library.Run

namespace WallpaperRotation.Library

/-! ## The last record of a kind -/

/-- The last record in a list that meets a condition. -/
def latest (meets : Wallpaper → Bool) (records : List Wallpaper) : Option Wallpaper :=
  (records.filter meets).getLast?

section Latest

variable {meets : Wallpaper → Bool} {records : List Wallpaper} {w : Wallpaper}

/-- A record at the end of a list is the last one of its kind. -/
theorem latest_append_of_meets (h : meets w = true) :
    latest meets (records ++ [w]) = some w := by
  rw [latest, List.filter_append, List.filter_singleton, h]
  simp

/-- A record of another kind at the end of a list does not count. -/
theorem latest_append_of_not_meets (h : meets w = false) :
    latest meets (records ++ [w]) = latest meets records := by
  rw [latest, latest, List.filter_append, List.filter_singleton, h]
  simp

/-- The last record of a kind is one of the list and of the kind. -/
theorem of_latest_eq_some (h : latest meets records = some w) :
    w ∈ records ∧ meets w = true :=
  List.mem_filter.1 (List.mem_of_getLast? h)

/-- In a list with a record of a kind there is a last one. -/
theorem exists_latest (meets : Wallpaper → Bool) (hw : w ∈ records) (h : meets w = true) :
    ∃ g, latest meets records = some g := by
  have hne : records.filter meets ≠ [] := List.ne_nil_of_mem (List.mem_filter.2 ⟨hw, h⟩)
  exact ⟨_, List.getLast?_eq_getLast_of_ne_nil hne⟩

end Latest

/-- The last record of the file at a path. -/
def latestAt (path : FilePath) (records : List Wallpaper) : Option Wallpaper :=
  latest (fun w => w.path.same path) records

/-- The last record of an identifier. -/
def latestUnder (id : String) (records : List Wallpaper) : Option Wallpaper :=
  latest (fun w => w.id = id) records

/-- The last record of a file is the same for the same paths. -/
theorem latestAt_congr {path other : FilePath} (h : path.same other = true)
    (records : List Wallpaper) : latestAt path records = latestAt other records := by
  unfold latestAt latest
  congr 1
  refine List.filter_congr fun w _ => ?_
  rw [FilePath.same_congr_right h]

/-! ## Slots -/

/-- Where duplicates take each other's stead, every record finds a slot. -/
theorem slot?_replace (library : Library) (w : Wallpaper) :
    library.slot? w .replace = some w.id := by
  unfold slot?
  split
  · rfl
  · split <;> rfl

/-- Where duplicates are not kept as versions, a slot is the record's own identifier. -/
theorem eq_of_slot? {library : Library} {w : Wallpaper} {policy : Policy} {id : String}
    (hpolicy : policy ≠ .version) (h : library.slot? w policy = some id) : id = w.id := by
  unfold slot? at h
  split at h
  · exact (Option.some.inj h).symm
  · split at h
    · exact (Option.some.inj h).symm
    · cases policy with
      | reject => cases h
      | replace => exact (Option.some.inj h).symm
      | version => exact absurd rfl hpolicy

/-- Where duplicates do not take each other's stead, a slot is open to the record's path. -/
theorem isOpen_of_slot? {library : Library} {w : Wallpaper} {policy : Policy} {id : String}
    (hpolicy : policy ≠ .replace) (h : library.slot? w policy = some id) :
    library.isOpen w.path id = true := by
  cases policy with
  | replace => exact absurd rfl hpolicy
  | version =>
    obtain ⟨n, hslot, hopen, -⟩ := slot?_version library w
    obtain rfl := Option.some.inj (hslot.symm.trans h)
    exact hopen
  | reject =>
    unfold slot? at h
    cases hget : library.get? w.id with
    | none =>
      rw [hget] at h
      obtain rfl := Option.some.inj h
      rw [isOpen, hget]
    | some existing =>
      rw [hget] at h
      by_cases hpath : existing.path.same w.path = true
      · simp only [hpath, if_true, Option.some.injEq] at h
        rw [isOpen, ← h, hget]
        exact hpath
      · simp [hpath] at h

/-- Where duplicates do not take each other's stead, an insert leaves the records of other files. -/
theorem Consistent.mem_apply_insert_of_other {library : Library} (h : library.Consistent)
    {w r : Wallpaper} {policy : Policy} (hpolicy : policy ≠ .replace) (hr : r ∈ library.wallpapers)
    (hother : r.path.same w.path = false) : r ∈ (library.apply (.insert w policy)).wallpapers := by
  cases hslot : library.slot? w policy with
  | none =>
    rw [apply_insert_of_slot?_eq_none hslot]
    exact hr
  | some id =>
    rw [h.apply_insert_of_slot hslot]
    refine h.mem_put.2 (Or.inr ⟨hr, fun hid => ?_, hother⟩)
    -- The slot is open to the file that is put in, so no other file has it.
    rw [(isOpen_iff h.idsDistinct).1 (isOpen_of_slot? hpolicy hslot) r hr hid] at hother
    cases hother

/-- Where duplicates do not take each other's stead, inserts leave the records of other files. -/
theorem Consistent.mem_insertEach_of_other {library : Library} (h : library.Consistent)
    {r : Wallpaper} {policy : Policy} (hpolicy : policy ≠ .replace) (hr : r ∈ library.wallpapers)
    {records : List Wallpaper} (hother : ∀ w ∈ records, r.path.same w.path = false) :
    r ∈ (library.insertEach policy records).wallpapers := by
  induction records generalizing library with
  | nil => exact hr
  | cons w records ih =>
    have hfirst := h.mem_apply_insert_of_other hpolicy hr (hother w List.mem_cons_self)
    exact ih (h.apply_insert w policy) hfirst fun v hv => hother v (List.mem_cons_of_mem w hv)

/-! ## Records that follow others -/

/-- The library holds the last one of the records of each file. -/
structure Follows (library : Library) (policy : Policy) (records : List Wallpaper) : Prop where
  /-- What stands at the path of a file is its last record, unless that was refused. -/
  atPath : ∀ r ∈ library.wallpapers, ∀ g, latestAt r.path records = some g →
    (policy = .reject → r.id = g.id) → r = { g with id := r.id }
  /-- Where duplicates take each other's stead, what has an identifier is its last record. -/
  underId : policy = .replace → ∀ r ∈ library.wallpapers, ∀ g,
    latestUnder r.id records = some g → r = g
  /-- Where duplicates take each other's stead, the record of a file has its identifier. -/
  ownId : policy = .replace → ∀ r ∈ library.wallpapers, ∀ g,
    latestAt r.path records = some g → r.id = g.id

/-- Fewer records follow as well. -/
theorem Follows.of_subset {library rest : Library} {policy : Policy} {records : List Wallpaper}
    (h : library.Follows policy records) (hsub : rest.wallpapers ⊆ library.wallpapers) :
    rest.Follows policy records where
  atPath r hr := h.atPath r (hsub hr)
  underId hpolicy r hr := h.underId hpolicy r (hsub hr)
  ownId hpolicy r hr := h.ownId hpolicy r (hsub hr)

/-- A library that follows some records follows them and one more after that was put in. -/
theorem Follows.apply_insert {library : Library} {policy : Policy} {records : List Wallpaper}
    (hfollows : library.Follows policy records) (h : library.Consistent) (w : Wallpaper) :
    (library.apply (.insert w policy)).Follows policy (records ++ [w]) := by
  cases hslot : library.slot? w policy with
  | none =>
    obtain ⟨rfl, existing, hexisting, hid, hother, -⟩ := insert_of_slot?_eq_none hslot
    rw [apply_insert_of_slot?_eq_none hslot]
    have hnever : Policy.reject ≠ Policy.replace := by decide
    refine ⟨fun r hr g hg hown => ?_, fun h => (hnever h).elim, fun h => (hnever h).elim⟩
    by_cases hpath : w.path.same r.path = true
    · -- The identifier of the refused record belongs to another file.
      obtain rfl := Option.some.inj ((latest_append_of_meets hpath).symm.trans hg)
      rw [eq_of_id_eq h.idsDistinct hexisting hr (hid.trans (hown rfl).symm), FilePath.same_comm,
        hpath] at hother
      cases hother
    · rw [latestAt, latest_append_of_not_meets (by simpa using hpath)] at hg
      exact hfollows.atPath r hr g hg hown
  | some id =>
    rw [h.apply_insert_of_slot hslot]
    have hold {r : Wallpaper} (hother : r.path.same w.path = false) :
        latestAt r.path (records ++ [w]) = latestAt r.path records :=
      latest_append_of_not_meets (by rw [FilePath.same_comm]; exact hother)
    have hnew : latestAt w.path (records ++ [w]) = some w :=
      latest_append_of_meets (FilePath.same_refl _)
    refine ⟨fun r hr g hg hown => ?_, fun hpolicy r hr g hg => ?_, fun hpolicy r hr g hg => ?_⟩
    · rcases h.mem_put.1 hr with rfl | ⟨hr, -, hother⟩
      · obtain rfl := Option.some.inj (hnew.symm.trans hg)
        rfl
      · exact hfollows.atPath r hr g ((hold hother).symm.trans hg) hown
    · obtain rfl := eq_of_slot? (by rw [hpolicy]; decide) hslot
      rcases h.mem_put.1 hr with rfl | ⟨hr, hne, -⟩
      · exact Option.some.inj ((latest_append_of_meets (by simp)).symm.trans hg)
      · rw [latestUnder, latest_append_of_not_meets (by simpa using Ne.symm hne)] at hg
        exact hfollows.underId hpolicy r hr g hg
    · obtain rfl := eq_of_slot? (by rw [hpolicy]; decide) hslot
      rcases h.mem_put.1 hr with rfl | ⟨hr, -, hother⟩
      · obtain rfl := Option.some.inj (hnew.symm.trans hg)
        rfl
      · exact hfollows.ownId hpolicy r hr g ((hold hother).symm.trans hg)

/-- A library follows the records that were put in. -/
theorem Consistent.follows_insertEach {library : Library} (h : library.Consistent)
    (policy : Policy) (records : List Wallpaper) :
    (library.insertEach policy records).Follows policy records := by
  induction records using List.reverseRecOn with
  | nil =>
    exact ⟨fun r _ g hg => (Option.some_ne_none g hg.symm).elim,
      fun _ r _ g hg => (Option.some_ne_none g hg.symm).elim,
      fun _ r _ g hg => (Option.some_ne_none g hg.symm).elim⟩
  | append_singleton records w ih =>
    rw [insertEach_append_singleton]
    exact ih.apply_insert (h.insertEach policy records) w

end WallpaperRotation.Library
