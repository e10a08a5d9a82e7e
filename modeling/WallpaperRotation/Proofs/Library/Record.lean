/-
# Records by identifier and by path

What looking up, taking out and overwriting do to a list of records whose identifiers, or whose
paths, are distinct.
-/
import Mathlib.Data.List.Nodup
import Mathlib.Data.List.Pairwise
import WallpaperRotation.Library.Insert
import WallpaperRotation.Proofs.FilePath.Same

namespace WallpaperRotation.Library

/-! ## Identifiers -/

/-- The identifiers of the records, in their order. -/
def ids (library : Library) : List String :=
  library.wallpapers.map Wallpaper.id

/-- An identifier is one of the library when a record has it. -/
theorem mem_ids {library : Library} {id : String} :
    id ∈ library.ids ↔ ∃ w ∈ library.wallpapers, w.id = id :=
  List.mem_map

/-- The identifier of a record is one of the library. -/
theorem id_mem_ids {library : Library} {w : Wallpaper} (h : w ∈ library.wallpapers) :
    w.id ∈ library.ids :=
  List.mem_map_of_mem h

/-- Nothing is found under an identifier that no record has. -/
theorem get?_eq_none_iff {library : Library} {id : String} :
    library.get? id = none ↔ id ∉ library.ids := by
  simp [get?, mem_ids]

/-- Something is found under an identifier that a record has. -/
theorem isSome_get?_iff {library : Library} {id : String} :
    (library.get? id).isSome = true ↔ id ∈ library.ids := by
  rw [← not_iff_not, ← get?_eq_none_iff, Bool.not_eq_true, Option.isSome_eq_false_iff,
    Option.isNone_iff_eq_none]

/-- What is found under an identifier is a record with it. -/
theorem of_get?_eq_some {library : Library} {id : String} {w : Wallpaper}
    (h : library.get? id = some w) : w ∈ library.wallpapers ∧ w.id = id := by
  have hfind : library.wallpapers.find? (fun w => w.id = id) = some w := h
  exact ⟨List.mem_of_find?_eq_some hfind, by simpa using List.find?_some hfind⟩

/-- Records with one identifier are one record. -/
theorem eq_of_id_eq {library : Library} (h : library.ids.Nodup) {v w : Wallpaper}
    (hv : v ∈ library.wallpapers) (hw : w ∈ library.wallpapers) (hid : v.id = w.id) : v = w :=
  List.inj_on_of_nodup_map h hv hw hid

/-- Where identifiers are distinct, every record is found under its own. -/
theorem get?_eq_some_iff {library : Library} (h : library.ids.Nodup) {id : String}
    {w : Wallpaper} : library.get? id = some w ↔ w ∈ library.wallpapers ∧ w.id = id := by
  refine ⟨of_get?_eq_some, fun ⟨hw, hid⟩ => ?_⟩
  cases hget : library.get? id with
  | none => exact absurd (hid ▸ id_mem_ids hw) (get?_eq_none_iff.1 hget)
  | some v =>
    have hv := of_get?_eq_some hget
    rw [eq_of_id_eq h hv.1 hw (hv.2.trans hid.symm)]

/-! ## Paths -/

/-- The records have distinct paths. -/
def PathsDistinct (records : List Wallpaper) : Prop :=
  records.Pairwise fun a b => a.path.same b.path = false

/-- Whether records have distinct paths does not depend on their order. -/
theorem PathsDistinct.of_perm {records others : List Wallpaper} (h : PathsDistinct records)
    (hperm : records.Perm others) : PathsDistinct others :=
  h.perm hperm fun hab => by rw [FilePath.same_comm]; exact hab

/-- The last one of records of distinct paths is of another path than those before it. -/
theorem PathsDistinct.of_append {records : List Wallpaper} {w : Wallpaper}
    (h : PathsDistinct (records ++ [w])) :
    PathsDistinct records ∧ ∀ v ∈ records, v.path.same w.path = false := by
  obtain ⟨hrecords, -, hlast⟩ := List.pairwise_append.1 h
  exact ⟨hrecords, fun v hv => hlast v hv w List.mem_cons_self⟩

/-- Records of one path are one record. -/
theorem eq_of_path_same {records : List Wallpaper} (h : PathsDistinct records) {v w : Wallpaper}
    (hv : v ∈ records) (hw : w ∈ records) (hpath : v.path.same w.path = true) : v = w := by
  by_contra hne
  have hsymm : Std.Symm fun a b : Wallpaper => a.path.same b.path = false :=
    ⟨fun a b hab => by rw [FilePath.same_comm]; exact hab⟩
  have hfalse : v.path.same w.path = false := h.forall hv hw hne
  rw [hpath] at hfalse
  cases hfalse

/-- Nothing is found at a path that no record has. -/
theorem byPath?_eq_none_iff {library : Library} {path : FilePath} :
    library.byPath? path = none ↔ ∀ w ∈ library.wallpapers, w.path.same path = false := by
  simp [byPath?]

/-- What is found at a path is a record with it. -/
theorem of_byPath?_eq_some {library : Library} {path : FilePath} {w : Wallpaper}
    (h : library.byPath? path = some w) : w ∈ library.wallpapers ∧ w.path.same path = true := by
  have hfind : library.wallpapers.find? (fun w => w.path.same path) = some w := h
  exact ⟨List.mem_of_find?_eq_some hfind, by simpa using List.find?_some hfind⟩

/-- Where paths are distinct, every record is found at its own. -/
theorem byPath?_eq_some_iff {library : Library} (h : PathsDistinct library.wallpapers)
    {path : FilePath} {w : Wallpaper} :
    library.byPath? path = some w ↔ w ∈ library.wallpapers ∧ w.path.same path = true := by
  refine ⟨of_byPath?_eq_some, fun ⟨hw, hpath⟩ => ?_⟩
  cases hget : library.byPath? path with
  | none =>
    rw [byPath?_eq_none_iff.1 hget w hw] at hpath
    cases hpath
  | some v =>
    have hv := of_byPath?_eq_some hget
    rw [eq_of_path_same h hv.1 hw (by rw [FilePath.same_congr_right hpath]; exact hv.2)]

/-! ## One record taken out or overwritten -/

/-- Where identifiers are distinct, taking out the first record with an identifier takes out all
of them. -/
theorem eraseP_id_eq_filter {records : List Wallpaper} (h : (records.map Wallpaper.id).Nodup)
    (id : String) :
    (records.eraseP fun w => w.id = id) = records.filter fun w => w.id ≠ id := by
  induction records with
  | nil => rfl
  | cons w rest ih =>
    rw [List.map_cons, List.nodup_cons] at h
    by_cases hid : w.id = id
    · have hrest : ∀ v ∈ rest, v.id ≠ id := by
        intro v hv hvid
        exact h.1 (List.mem_map.2 ⟨v, hv, hvid.trans hid.symm⟩)
      rw [List.eraseP_cons_of_pos (by simpa using hid),
        List.filter_cons_of_neg (by simpa using hid),
        List.filter_eq_self.2 (by simpa using hrest)]
    · rw [List.eraseP_cons_of_neg (by simpa using hid),
        List.filter_cons_of_pos (by simpa using hid), ih h.2]

/-- Overwriting takes one record out and puts another one in. -/
theorem perm_replaceFirst {α : Type} {meets : α → Bool} (value : α) {records : List α}
    (h : ∃ x ∈ records, meets x = true) :
    (replaceFirst meets value records).Perm (records.eraseP meets ++ [value]) := by
  induction records with
  | nil => simp at h
  | cons x rest ih =>
    unfold replaceFirst
    by_cases hx : meets x = true
    · rw [if_pos hx, List.eraseP_cons_of_pos hx]
      exact (List.perm_append_singleton value rest).symm
    · rw [if_neg hx, List.eraseP_cons_of_neg hx]
      obtain ⟨y, hy, hmeets⟩ := h
      rcases List.mem_cons.1 hy with rfl | hy
      · exact absurd hmeets hx
      · exact (ih ⟨y, hy, hmeets⟩).cons x

end WallpaperRotation.Library
