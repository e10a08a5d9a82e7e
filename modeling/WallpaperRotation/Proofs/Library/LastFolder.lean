/-
# The last folder of a file

Folders may overlap, and then a file is found, and a record of it read, under several of them.  The
records of one file are put in in the order of these folders, so the last one of them comes from
the last folder under which the file is found.
-/
import WallpaperRotation.Proofs.Library.Found
import WallpaperRotation.Proofs.Library.Latest

namespace WallpaperRotation

/-! ## The order of a scan -/

namespace Library

/-- The last record of a kind in two lists is that in the second one, or else that in the first
one. -/
theorem latest_append (meets : Wallpaper → Bool) (records others : List Wallpaper) :
    latest meets (records ++ others) = (latest meets others).or (latest meets records) := by
  unfold latest
  rw [List.filter_append, List.getLast?_append]

/-- The order of records by their paths is transitive. -/
theorem path_le_trans (a b c : Wallpaper) (hab : a.path.le b.path = true)
    (hbc : b.path.le c.path = true) : a.path.le c.path = true :=
  FilePath.le_trans hab hbc

/-- Of two records one is not of a later path. -/
theorem path_le_total (a b : Wallpaper) : (a.path.le b.path || b.path.le a.path) = true :=
  FilePath.le_total a.path b.path

/-- A scan puts records in in the order of their paths. -/
theorem pairwise_scanOrder (records : List Wallpaper) :
    (scanOrder records).Pairwise fun a b => a.path.le b.path = true :=
  List.pairwise_mergeSort path_le_trans path_le_total records

/-- Putting records in the order of their paths leaves those of one file in their order. -/
theorem filter_same_scanOrder (path : FilePath) (records : List Wallpaper) :
    (scanOrder records).filter (fun w => w.path.same path) =
      records.filter fun w => w.path.same path := by
  have hle {v w : Wallpaper} (hv : v.path.same path = true) (hw : w.path.same path = true) :
      v.path.le w.path = true := by
    have hrank := (FilePath.same_iff_rank_eq v.path w.path).1
      (FilePath.same_trans hv (by rw [FilePath.same_comm]; exact hw))
    rw [FilePath.le, hrank]
    simp
  have hequal : (records.filter fun w => w.path.same path).Pairwise fun a b =>
      a.path.le b.path = true := by
    refine List.pairwise_of_forall_mem_list ?_
    intro v hv w hw
    exact hle (List.mem_filter.1 hv).2 (List.mem_filter.1 hw).2
  -- The sort is stable, so the records of the file stand in it in their order.
  have hsub : (records.filter fun w => w.path.same path).Sublist (scanOrder records) :=
    List.sublist_mergeSort path_le_trans path_le_total hequal List.filter_sublist
  have hfiltered := hsub.filter fun w => w.path.same path
  rw [List.filter_filter] at hfiltered
  simp only [Bool.and_self] at hfiltered
  refine (hfiltered.eq_of_length ?_).symm
  exact ((List.mergeSort_perm records _).filter _).length_eq.symm

/-- The last record of a file is the same in the order of a scan. -/
theorem latestAt_scanOrder (path : FilePath) (records : List Wallpaper) :
    latestAt path (scanOrder records) = latestAt path records := by
  unfold latestAt latest
  rw [filter_same_scanOrder]

end Library

/-! ## Finding a file under folders -/

/-- The file at a path is one of those found under a folder. -/
def Disk.Finds (disk : Disk) (recursive : Bool) (folder path : FilePath) : Prop :=
  ∃ files, disk.foundIn recursive folder = .ok files ∧ ∃ file ∈ files, file.path.same path = true

/-- The folder is the last one of some folders under which the file at a path is found. -/
def Disk.FindsLast (disk : Disk) (recursive : Bool) (folders : List FilePath)
    (folder path : FilePath) : Prop :=
  ∃ earlier later, folders = earlier ++ folder :: later ∧ disk.Finds recursive folder path ∧
    ∀ other ∈ later, ¬disk.Finds recursive other path

/-- A file that was read under one folder is read under each folder under which it is found. -/
theorem Disk.exists_latestAt_of_finds {disk : Disk} {recursive : Bool} {folders : List FilePath}
    {files : List FoundFile} (hfound : disk.foundInAll recursive folders = .ok files)
    {path other otherFolder folder : FilePath} {w : Wallpaper}
    (hread : Wallpaper.ofFile disk other otherFolder = .ok w) (hsame : other.same path = true)
    (hfolder : folder ∈ folders) (hfinds : disk.Finds recursive folder path) :
    ∃ g, Library.latestAt path (disk.records files) = some g := by
  obtain ⟨found, hin, file, hfile, hpath⟩ := hfinds
  have hother : other.same file.path = true :=
    FilePath.same_trans hsame (by rw [FilePath.same_comm]; exact hpath)
  have hagain := Wallpaper.ofFile_of_same hread hother (Disk.of_mem_foundIn hin hfile).2.2
    file.folder
  have hmem := Disk.mem_records_iff.2
    ⟨file, (Disk.mem_foundInAll_iff hfound).2 ⟨folder, hfolder, found, hin, hfile⟩, hagain⟩
  exact Library.exists_latest (fun v => v.path.same path) hmem hpath

/-- The last record of a file comes from the last folder under which the file is found. -/
theorem Disk.findsLast_of_latestAt {disk : Disk} {recursive : Bool} {folders : List FilePath}
    {files : List FoundFile} (hfound : disk.foundInAll recursive folders = .ok files)
    {path : FilePath} {g : Wallpaper}
    (hg : Library.latestAt path (disk.records files) = some g) :
    disk.FindsLast recursive folders g.folder path := by
  induction folders generalizing files with
  | nil =>
    obtain rfl := Except.ok.inj hfound
    cases hg
  | cons folder folders ih =>
    obtain ⟨first, others, hfirst, hothers, rfl⟩ := Disk.foundInAll_cons_eq_ok hfound
    have happend : disk.records (first ++ others) = disk.records first ++ disk.records others :=
      List.filterMap_append
    rw [happend, Library.latestAt, Library.latest_append] at hg
    cases hlater : Library.latestAt path (disk.records others) with
    | some w =>
      rw [Library.latestAt] at hlater
      rw [hlater, Option.some_or] at hg
      obtain rfl := Option.some.inj hg
      obtain ⟨earlier, later, rfl, hlast⟩ := ih hothers hlater
      exact ⟨folder :: earlier, later, rfl, hlast⟩
    | none =>
      have hnone := hlater
      rw [Library.latestAt] at hlater
      rw [hlater, Option.none_or] at hg
      obtain ⟨hmem, hsame⟩ := Library.of_latest_eq_some hg
      obtain ⟨file, hfile, hread⟩ := Disk.mem_records_iff.1 hmem
      obtain ⟨hpath, hfolder, -⟩ := Wallpaper.of_ofFile_eq_ok hread
      have hfirstFolder := (Disk.of_mem_foundIn hfirst hfile).1
      rw [hpath] at hsame
      rw [hfolder, hfirstFolder]
      refine ⟨[], folders, rfl, ⟨first, hfirst, file, hfile, hsame⟩, fun other hother hfinds => ?_⟩
      -- Found under a later folder, the file would have made a later record.
      obtain ⟨w, hw⟩ := Disk.exists_latestAt_of_finds hothers hread hsame hother hfinds
      rw [hnone] at hw
      cases hw

end WallpaperRotation
