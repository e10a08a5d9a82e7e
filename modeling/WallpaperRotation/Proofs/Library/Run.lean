/-
# Runs of operations

A library is changed by its operations only.  Each of them leaves a consistent library when it is
given one, and one that is refused leaves the library as it was; so every run of operations from
the empty library ends at a consistent one.
-/
import WallpaperRotation.Library.Scan
import WallpaperRotation.Proofs.Library.Document
import WallpaperRotation.Proofs.Library.Placement
import WallpaperRotation.Proofs.Library.Tagging

namespace WallpaperRotation

/-! ## Operations -/

/-- An operation on a library, with all that it is told. -/
inductive Operation where
  | insert (w : Wallpaper) (policy : Policy)
  | remove (id : String)
  | removeByPath (path : FilePath)
  | purge (disk : Disk) (folders : List FilePath)
  | sanitize
  | addTag (id name : String)
  | removeTag (id name : String)
  | scan (disk : Disk) (folders : List FilePath) (recursive : Bool) (policy : Policy)
  /-- The library is kept at a path and loaded from there. -/
  | reopen (disk : Disk) (path : FilePath)

namespace Library

/-- The library after an operation; one that is refused leaves it as it was. -/
def apply (library : Library) : Operation → Library
  | .insert w policy =>
    match library.insert w policy with
    | .ok (_, library) => library
    | .error _ => library
  | .remove id => ((library.remove? id).map Prod.snd).getD library
  | .removeByPath path => ((library.removeByPath? path).map Prod.snd).getD library
  | .purge disk folders => (library.purge disk folders).2
  | .sanitize => library.sanitize.2
  | .addTag id name =>
    match library.addTag id name with
    | .ok library => library
    | .error _ => library
  | .removeTag id name => (library.removeTag id name).2
  | .scan disk folders recursive policy =>
    match library.scan disk folders recursive policy with
    | .ok (_, library) => library
    | .error _ => library
  | .reopen disk path =>
    match library.save disk path with
    | (.ok (), disk) =>
      match Library.load disk path with
      | .ok library => library
      | .error _ => library
    | (.error _, _) => library

/-- The library after operations, one after the other. -/
def run (library : Library) (operations : List Operation) : Library :=
  operations.foldl apply library

/-- The library after records were put in, one after the other. -/
def insertEach (library : Library) (policy : Policy) (records : List Wallpaper) : Library :=
  library.run (records.map (.insert · policy))

/-! ## Inserts -/

/-- Inserts go on with the library and the report after the first one. -/
theorem insertAll_cons (library : Library) (policy : Policy) (report : ScanReport) (w : Wallpaper)
    (records : List Wallpaper) :
    library.insertAll policy report (w :: records) =
      (library.apply (.insert w policy)).insertAll policy
        (report.count ((library.insert w policy).map Prod.fst)) records := by
  simp only [insertAll, apply]
  cases library.insert w policy with
  | ok result => rfl
  | error error => rfl

/-- The inserts of a scan are a run. -/
theorem insertAll_snd (library : Library) (policy : Policy) (report : ScanReport)
    (records : List Wallpaper) :
    (library.insertAll policy report records).2 = library.insertEach policy records := by
  induction records generalizing library report with
  | nil => rfl
  | cons w records ih =>
    rw [insertAll_cons]
    exact ih _ _

/-- The last one of some inserts comes after the others. -/
theorem insertEach_append_singleton (library : Library) (policy : Policy)
    (records : List Wallpaper) (w : Wallpaper) :
    library.insertEach policy (records ++ [w]) =
      (library.insertEach policy records).apply (.insert w policy) := by
  rw [insertEach, List.map_append, run, List.foldl_append]
  rfl

/-- An insert that finds a slot puts the record there. -/
theorem Consistent.apply_insert_of_slot {library : Library} (h : library.Consistent)
    {w : Wallpaper} {policy : Policy} {id : String} (hslot : library.slot? w policy = some id) :
    library.apply (.insert w policy) = library.put { w with id := id } := by
  simp only [Library.apply, h.insert_of_slot hslot]

/-- An insert that finds no slot leaves the library as it was. -/
theorem apply_insert_of_slot?_eq_none {library : Library} {w : Wallpaper} {policy : Policy}
    (hslot : library.slot? w policy = none) : library.apply (.insert w policy) = library := by
  obtain ⟨-, existing, -, -, -, hrefused⟩ := insert_of_slot?_eq_none hslot
  simp only [apply, hrefused]

/-- A record is put beside the only other one, of another identifier and another path. -/
theorem apply_insert_beside {v w : Wallpaper} (hid : v.id ≠ w.id)
    (hpath : v.path.same w.path = false) (policy : Policy) :
    (⟨[v], []⟩ : Library).apply (.insert w policy) =
      ⟨if precedes v w then [v, w] else [w, v], []⟩ := by
  have hfree : (⟨[v], []⟩ : Library).get? w.id = none := by simp [get?, hid]
  have happend : (dropStale ⟨[v], []⟩ w).append w = ⟨[v, w], []⟩ := by
    simp [dropStale, hpath, removeAll, append]
  simp only [apply, insert, hfree, happend, sorted_pair]

/-! ## Single operations -/

/-- An insert leaves a consistent library. -/
theorem Consistent.apply_insert {library : Library} (h : library.Consistent) (w : Wallpaper)
    (policy : Policy) : (library.apply (.insert w policy)).Consistent := by
  cases hslot : library.slot? w policy with
  | none =>
    rw [apply_insert_of_slot?_eq_none hslot]
    exact h
  | some id =>
    rw [h.apply_insert_of_slot hslot]
    exact h.put _

/-- Inserts leave a consistent library. -/
theorem Consistent.insertEach {library : Library} (h : library.Consistent) (policy : Policy)
    (records : List Wallpaper) : (library.insertEach policy records).Consistent := by
  induction records generalizing library with
  | nil => exact h
  | cons w records ih => exact ih (h.apply_insert w policy)

/-- A removal leaves a consistent library. -/
theorem Consistent.remove? {library rest : Library} (h : library.Consistent) {id : String}
    {w : Wallpaper} (hremove : library.remove? id = some (w, rest)) : rest.Consistent := by
  by_cases hid : id ∈ library.ids
  · obtain ⟨v, hv, rfl⟩ := mem_ids.1 hid
    rw [h.remove?_eq_some hv] at hremove
    cases hremove
    exact h.without _
  · rw [remove?_eq_none hid] at hremove
    cases hremove

/-- A purge leaves a consistent library. -/
theorem Consistent.purge {library : Library} (h : library.Consistent) (disk : Disk)
    (folders : List FilePath) : (library.purge disk folders).2.Consistent := by
  rw [h.purge_eq]
  exact h.without _

/-- The report of a scan before it puts records in. -/
def reportFound (disk : Disk) (files : List FoundFile) : ScanReport :=
  { ScanReport.blank with
    found := files.length
    failed := files.length - (disk.records files).length }

/-- A scan of folders that can be listed is the run of its inserts and a purge. -/
theorem apply_scan {disk : Disk} {folders : List FilePath} {recursive : Bool}
    {files : List FoundFile} (hfound : disk.foundInAll recursive folders = .ok files)
    (library : Library) (policy : Policy) :
    library.apply (.scan disk folders recursive policy) =
      ((library.insertEach policy (scanOrder (disk.records files))).purge disk folders).2 := by
  rw [← insertAll_snd library policy (reportFound disk files)]
  simp only [apply, scan, hfound]
  rfl

/-- Keeping a consistent library and loading it leaves it as it was. -/
theorem Consistent.apply_reopen {library : Library} (h : library.Consistent) (disk : Disk)
    (path : FilePath) : library.apply (.reopen disk path) = library := by
  unfold apply
  simp only
  split
  · rename_i kept hsave
    rw [load_save hsave, sorted_eq_self h.ordered]
  · rfl

/-! ## Runs -/

/-- Every operation leaves a consistent library. -/
theorem Consistent.apply {library : Library} (h : library.Consistent) (operation : Operation) :
    (library.apply operation).Consistent := by
  cases operation with
  | insert w policy => exact h.apply_insert w policy
  | remove id =>
    simp only [Library.apply]
    cases hremove : library.remove? id with
    | none => exact h
    | some result => exact h.remove? hremove
  | removeByPath path =>
    simp only [Library.apply]
    cases hremove : library.removeByPath? path with
    | none => exact h
    | some result =>
      obtain ⟨w, -, hremove⟩ := Option.bind_eq_some_iff.1 hremove
      exact h.remove? hremove
  | purge disk folders => exact h.purge disk folders
  | sanitize =>
    simp only [Library.apply, h.sanitize_eq]
    exact h.without _
  | addTag id name =>
    simp only [Library.apply]
    split
    · rename_i hadd
      exact h.addTag hadd
    · exact h
  | removeTag id name => exact h.removeTag id name
  | scan disk folders recursive policy =>
    cases hfound : disk.foundInAll recursive folders with
    | error failure =>
      simp only [Library.apply, Library.scan, hfound]
      exact h
    | ok files =>
      rw [apply_scan hfound]
      exact (h.insertEach policy _).purge disk folders
  | reopen disk path =>
    rw [h.apply_reopen]
    exact h

/-- A run leaves a consistent library. -/
theorem Consistent.run {library : Library} (h : library.Consistent)
    (operations : List Operation) : (library.run operations).Consistent := by
  induction operations generalizing library with
  | nil => exact h
  | cons operation operations ih => exact ih (h.apply operation)

/-- A library that operations made from the empty one is consistent. -/
theorem consistent_of_eq_run {library : Library} {operations : List Operation}
    (h : library = empty.run operations) : library.Consistent :=
  h ▸ consistent_empty.run operations

/-- Every library that operations make from the empty one is consistent. -/
theorem consistent_run_empty (operations : List Operation) :
    (empty.run operations).Consistent :=
  consistent_empty.run operations

end Library

end WallpaperRotation
