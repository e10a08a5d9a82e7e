/-
# The balance of a scan

A scan accounts for each file that it finds: its record was added, took the stead of another one,
was kept as a version or refused, or the file could not be read.  And it accounts for each record of
the library: a record comes with an addition or a version, and it goes when its path is indexed
under another identifier or when the purge at the end drops it.
-/
import WallpaperRotation.Proofs.Library.Enumeration

namespace WallpaperRotation

/-! ## Files under folders -/

/-- The files under some folders are those found under each one. -/
theorem Disk.exists_flatten_of_foundInAll {disk : Disk} {recursive : Bool} {folders : List FilePath}
    {files : List FoundFile} (h : disk.foundInAll recursive folders = .ok files) :
    ∃ found, List.Forall₂ (fun folder under => disk.foundIn recursive folder = .ok under)
      folders found ∧ files = found.flatten := by
  induction folders generalizing files with
  | nil =>
    obtain rfl := Except.ok.inj h
    exact ⟨[], .nil, rfl⟩
  | cons folder folders ih =>
    obtain ⟨first, others, hfirst, hothers, rfl⟩ := Disk.foundInAll_cons_eq_ok h
    obtain ⟨found, hfound, rfl⟩ := ih hothers
    exact ⟨first :: found, .cons hfirst hfound, rfl⟩

namespace ScanReport

/-! ## Counters -/

/-- The number of records that a scan has tried to put in. -/
def handled (report : ScanReport) : Nat :=
  report.added + report.updated + report.versioned + report.rejected

/-- The number of records that a scan has put in beside the old ones. -/
def gained (report : ScanReport) : Nat :=
  report.added + report.versioned

variable (report : ScanReport) (outcome : Except StoreError Inserted)

/-- Whatever becomes of a record, it is counted once. -/
@[simp] theorem handled_count : (report.count outcome).handled = report.handled + 1 := by
  rcases outcome with error | ⟨id⟩ | ⟨id⟩ | ⟨id⟩ <;> simp only [count, handled] <;> omega

/-- Counting a record leaves the number of files. -/
@[simp] theorem found_count : (report.count outcome).found = report.found := by
  rcases outcome with error | ⟨id⟩ | ⟨id⟩ | ⟨id⟩ <;> rfl

/-- Counting a record leaves the number of files that could not be read. -/
@[simp] theorem failed_count : (report.count outcome).failed = report.failed := by
  rcases outcome with error | ⟨id⟩ | ⟨id⟩ | ⟨id⟩ <;> rfl

end ScanReport

namespace Library

/-- Inserts count each record once, and leave the number of files and of those that could not be
read. -/
theorem counts_insertAll (library : Library) (policy : Policy) (report : ScanReport)
    (records : List Wallpaper) :
    (library.insertAll policy report records).1.handled = report.handled + records.length ∧
      (library.insertAll policy report records).1.found = report.found ∧
      (library.insertAll policy report records).1.failed = report.failed := by
  induction records generalizing library report with
  | nil => exact ⟨rfl, rfl, rfl⟩
  | cons w records ih =>
    obtain ⟨hhandled, hfound, hfailed⟩ := ih (library.apply (.insert w policy))
      (report.count ((library.insert w policy).map Prod.fst))
    rw [ScanReport.handled_count] at hhandled
    rw [ScanReport.found_count] at hfound
    rw [ScanReport.failed_count] at hfailed
    rw [insertAll_cons, List.length_cons]
    exact ⟨by omega, hfound, hfailed⟩

/-- The files that a scan finds are those that make a record and those that could not be read. -/
theorem found_reportFound (disk : Disk) (files : List FoundFile) :
    (reportFound disk files).found =
      (disk.records files).length + (reportFound disk files).failed := by
  have hle : (disk.records files).length ≤ files.length := List.length_filterMap_le _ _
  simp only [reportFound]
  omega

/-! ## Records -/

/-- The records whose paths an insert indexes under another identifier; the library drops them. -/
def displacedBy (library : Library) (policy : Policy) (w : Wallpaper) : List Wallpaper :=
  library.wallpapers.filter fun v =>
    (library.apply (.insert w policy)).wallpapers.any fun r => r.path.same v.path && r.id ≠ v.id

/-- The records whose paths are indexed under another identifier by inserts, one after the other. -/
def displaced (library : Library) (policy : Policy) : List Wallpaper → List Wallpaper
  | [] => []
  | w :: records =>
    library.displacedBy policy w ++ (library.apply (.insert w policy)).displaced policy records

section Sizes

variable {library : Library}

/-- An insert that is refused displaces nothing. -/
theorem Consistent.displacedBy_of_slot?_eq_none (h : library.Consistent) {w : Wallpaper}
    {policy : Policy} (hslot : library.slot? w policy = none) :
    library.displacedBy policy w = [] := by
  unfold displacedBy
  rw [apply_insert_of_slot?_eq_none hslot, List.filter_eq_nil_iff]
  intro v hv hany
  obtain ⟨r, hr, hmoved⟩ := List.any_eq_true.1 hany
  obtain ⟨hpath, hid⟩ := Bool.and_eq_true_iff.1 hmoved
  exact of_decide_eq_true hid (congrArg Wallpaper.id (eq_of_path_same h.pathsDistinct hr hv hpath))

/-- An insert that puts a record in displaces its stale records. -/
theorem Consistent.displacedBy_of_slot (h : library.Consistent) {w : Wallpaper} {policy : Policy}
    {id : String} (hslot : library.slot? w policy = some id) :
    library.displacedBy policy w = library.wallpapers.filter (isStale { w with id := id }) := by
  unfold displacedBy
  rw [h.apply_insert_of_slot hslot]
  refine List.filter_congr fun v hv => Bool.eq_iff_iff.2 ?_
  rw [List.any_eq_true, isStale, Bool.and_eq_true, decide_eq_true_eq]
  constructor
  · rintro ⟨r, hr, hmoved⟩
    obtain ⟨hpath, hid⟩ := Bool.and_eq_true_iff.1 hmoved
    rcases h.mem_put.1 hr with rfl | ⟨hr, -, -⟩
    · exact ⟨by rw [FilePath.same_comm]; exact hpath, Ne.symm (of_decide_eq_true hid)⟩
    · -- An old record of the path is the record itself.
      exact absurd (congrArg Wallpaper.id (eq_of_path_same h.pathsDistinct hr hv hpath))
        (of_decide_eq_true hid)
  · rintro ⟨hpath, hid⟩
    refine ⟨{ w with id := id }, h.mem_put.2 (Or.inl rfl), Bool.and_eq_true_iff.2 ⟨?_, ?_⟩⟩
    · rw [FilePath.same_comm]
      exact hpath
    · exact decide_eq_true (Ne.symm hid)

/-- The records left and those dropped are as many as there were. -/
theorem Consistent.size_withoutWhere (h : library.Consistent) (meets : Wallpaper → Bool) :
    (library.withoutWhere meets).size + (library.wallpapers.filter meets).length =
      library.size := by
  have hall := List.length_eq_length_filter_add (l := library.wallpapers) meets
  rw [size, h.wallpapers_withoutWhere, size, hall, Nat.add_comm]

/-- Putting a record in drops its stale records, and makes one more unless its identifier was
there. -/
theorem Consistent.size_put (h : library.Consistent) (w : Wallpaper) :
    (library.put w).size + (library.wallpapers.filter (isStale w)).length =
      library.size + if w.id ∈ library.ids then 0 else 1 := by
  have hrest := h.size_withoutWhere (isStale w)
  rw [← h.dropStale_eq] at hrest
  have hput : (library.put w).size =
      ((library.dropStale w).wallpapers.eraseP fun v => v.id = w.id).length + 1 := by
    rw [eraseP_id_eq_filter (h.dropStale w).idsDistinct]
    simp [Library.put, size, sorted]
  by_cases hid : w.id ∈ library.ids
  · obtain ⟨v, hv, hvid⟩ := mem_ids.1 hid
    have hmem : v ∈ (library.dropStale w).wallpapers := h.mem_dropStale.2 ⟨hv, fun _ => hvid⟩
    have herase := List.length_eraseP_of_mem (p := fun v => decide (v.id = w.id)) hmem
      (decide_eq_true hvid)
    have hpos := List.length_pos_of_mem hmem
    rw [if_pos hid]
    simp only [size] at *
    omega
  · have herase : ((library.dropStale w).wallpapers.eraseP fun v => v.id = w.id) =
        (library.dropStale w).wallpapers :=
      List.eraseP_of_forall_not fun v hv hvid =>
        hid (of_decide_eq_true hvid ▸ id_mem_ids (h.mem_dropStale.1 hv).1)
    rw [herase] at hput
    rw [if_neg hid]
    simp only [size] at *
    omega

/-- A record that was put in counts as one more unless its identifier was there. -/
theorem gained_count_outcome (library : Library) (report : ScanReport) (w : Wallpaper)
    (id : String) :
    (report.count (.ok (library.outcome w id))).gained =
      report.gained + if id ∈ library.ids then 0 else 1 := by
  unfold outcome
  by_cases hheld : id ∈ library.ids
  · rw [if_pos hheld, if_pos hheld]
    rfl
  · rw [if_neg hheld, if_neg hheld]
    by_cases hown : id = w.id
    · rw [if_pos hown]
      simp only [ScanReport.count, ScanReport.gained]
      omega
    · rw [if_neg hown]
      rfl

/-- An insert accounts for the records: those that are left and those that it displaced are those
that were there and those that it counts as new. -/
theorem Consistent.size_apply_insert (h : library.Consistent) (w : Wallpaper) (policy : Policy)
    (report : ScanReport) :
    (library.apply (.insert w policy)).size + (library.displacedBy policy w).length +
        report.gained =
      library.size + (report.count ((library.insert w policy).map Prod.fst)).gained := by
  cases hslot : library.slot? w policy with
  | none =>
    obtain ⟨-, existing, -, -, -, hrefused⟩ := insert_of_slot?_eq_none hslot
    rw [apply_insert_of_slot?_eq_none hslot, h.displacedBy_of_slot?_eq_none hslot, hrefused]
    rfl
  | some id =>
    have hput := h.size_put { w with id := id }
    have hcount := library.gained_count_outcome report w id
    rw [h.apply_insert_of_slot hslot, h.displacedBy_of_slot hslot, h.insert_of_slot hslot, hput]
    change _ = library.size + (report.count (.ok (library.outcome w id))).gained
    rw [hcount, Nat.add_assoc, Nat.add_comm report.gained]

/-- Inserts account for the records, one after the other. -/
theorem Consistent.size_insertEach (h : library.Consistent) (policy : Policy)
    (records : List Wallpaper) (report : ScanReport) :
    (library.insertEach policy records).size + (library.displaced policy records).length +
        report.gained =
      library.size + (library.insertAll policy report records).1.gained := by
  induction records generalizing library report with
  | nil => rfl
  | cons w records ih =>
    have hfirst := h.size_apply_insert w policy report
    have hrest := ih (h.apply_insert w policy)
      (report.count ((library.insert w policy).map Prod.fst))
    rw [insertAll_cons, displaced, List.length_append]
    change ((library.apply (.insert w policy)).insertEach policy records).size + _ + _ = _
    omega

end Sizes

/-! ## Scans -/

/-- A scan that succeeds balances.  It found the files that were found under each entry of the list
of folders, each path once under each one; it has added, updated, versioned or refused a record for
each of them, or failed to read it.  And the library has the records that it had, the added and the
versioned ones, less those whose paths were indexed under another identifier by the inserts of the
scan and less those that were removed at the end. -/
theorem scan_balances {operations : List Operation} {disk : Disk} {folders : List FilePath}
    {recursive : Bool} {policy : Policy} {report : ScanReport} {scanned : Library}
    (hscan : (empty.run operations).scan disk folders recursive policy = .ok (report, scanned)) :
    (∃ found, List.Forall₂ (fun folder under => disk.foundIn recursive folder = .ok under ∧
        (disk.WellFormed → under.Pairwise fun a b => a.path.same b.path = false)) folders found ∧
      report.found = (found.map List.length).sum) ∧
    report.found =
      report.added + report.updated + report.versioned + report.rejected + report.failed ∧
    (scanned.size : Int) =
      (empty.run operations).size + report.added + report.versioned -
        ((empty.run operations).displaced policy (disk.recordsFound recursive folders)).length -
        report.removed := by
  have h := consistent_empty.run operations
  cases hfiles : disk.foundInAll recursive folders with
  | error failure =>
    rw [scan, hfiles] at hscan
    cases hscan
  | ok files =>
    rw [h.scan_eq hfiles] at hscan
    obtain ⟨rfl, rfl⟩ := Prod.mk.inj (Except.ok.inj hscan)
    have hlength : (disk.recordsFound recursive folders).length = (disk.records files).length := by
      rw [Disk.recordsFound_eq_scanOrder hfiles]
      exact List.length_mergeSort _
    obtain ⟨hhandled, hcount, hfailed⟩ := (empty.run operations).counts_insertAll policy
      (reportFound disk files) (disk.recordsFound recursive folders)
    have hfound := found_reportFound disk files
    have hsize := h.size_insertEach policy (disk.recordsFound recursive folders)
      (reportFound disk files)
    have hpurge := (h.insertEach policy (disk.recordsFound recursive folders)).size_withoutWhere
      (isLost disk folders)
    have hblank : (reportFound disk files).handled = 0 ∧ (reportFound disk files).gained = 0 :=
      ⟨rfl, rfl⟩
    simp only [ScanReport.handled] at hhandled hblank
    simp only [ScanReport.gained] at hsize hblank
    refine ⟨?_, ?_, ?_⟩
    · obtain ⟨found, hunder, rfl⟩ := Disk.exists_flatten_of_foundInAll hfiles
      refine ⟨found, hunder.imp fun folder under hfolder =>
        ⟨hfolder, fun hdisk => hdisk.pairwise_foundIn hfolder⟩, ?_⟩
      rw [hcount]
      exact List.length_flatten
    · dsimp only
      omega
    · dsimp only
      omega

/-- A file whose image has changed is indexed under the digest of the new one, and its old record is
dropped, although the scan removes nothing at its end. -/
theorem scan_balances_changed :
    (empty.run [.insert (imageRecord "old" "a.png") .version]).scan imageDisk [⟨"walls"⟩] true
        .version = .ok (⟨1, 1, 0, 0, 0, 0, 0⟩, imageLibrary imageId "a.png") ∧
      imageDisk.WellFormed ∧
      ((empty.run [.insert (imageRecord "old" "a.png") .version]).displaced .version
        (imageDisk.recordsFound true [⟨"walls"⟩])).length = 1 := by
  have hscan : (empty.run [.insert (imageRecord "old" "a.png") .version]).scan imageDisk
      [⟨"walls"⟩] true .version = .ok (⟨1, 1, 0, 0, 0, 0, 0⟩, imageLibrary imageId "a.png") := by
    decide +kernel
  have hstart : (empty.run [.insert (imageRecord "old" "a.png") .version]).size = 1 := by
    decide +kernel
  obtain ⟨-, -, hsize⟩ := scan_balances hscan
  have hend : (imageLibrary imageId "a.png").size = 1 := rfl
  rw [hstart, hend] at hsize
  dsimp only at hsize
  exact ⟨hscan, ⟨by decide +kernel, by decide +kernel⟩, by omega⟩

end Library

end WallpaperRotation
