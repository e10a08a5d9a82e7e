/-
# Scans that keep versions

Where duplicates are kept as versions, a scan leaves exactly one record at the path of each file
that it reads, and this record tells what the file is.  At other paths it leaves the old records
that are not lost, and no others.
-/
import WallpaperRotation.Proofs.Library.LastFolder
import WallpaperRotation.Proofs.Library.Standing

namespace WallpaperRotation.Library

/-! ## Paths of found files -/

/-- The path is not that of a file that the scan reads. -/
def IsOutside (disk : Disk) (recursive : Bool) (folders : List FilePath) (path : FilePath) : Prop :=
  ∀ f ∈ disk.recordsFound recursive folders, path.same f.path = false

section Version

variable {disk : Disk} {folders : List FilePath} {recursive : Bool} {report : ScanReport}
  {library scanned : Library}

/-- The last one of the records that a scan reads at a path comes from the last folder under which
the file is found. -/
theorem findsLast_of_latestAt_recordsFound {path : FilePath} {g : Wallpaper}
    (hg : latestAt path (disk.recordsFound recursive folders) = some g) :
    disk.FindsLast recursive folders g.folder path := by
  cases hfound : disk.foundInAll recursive folders with
  | error failure =>
    rw [Disk.recordsFound, hfound] at hg
    cases hg
  | ok files =>
    rw [Disk.recordsFound_eq_scanOrder hfound, latestAt_scanOrder] at hg
    exact Disk.findsLast_of_latestAt hfound hg

/-- At the path of a file that a scan reads it leaves one record that tells what the file is, as
found under the last folder. -/
theorem Consistent.exists_scanned_version (h : library.Consistent)
    (hscan : library.scan disk folders recursive .version = .ok (report, scanned)) {f : Wallpaper}
    (hf : f ∈ disk.recordsFound recursive folders) :
    ∃ v ∈ scanned.wallpapers, v.path.same f.path = true ∧
      (∃ n, v.id = candidateId f.id n) ∧
      Wallpaper.ofFile disk v.path v.folder = .ok { v with id := f.id } ∧
      disk.FindsLast recursive folders v.folder f.path := by
  obtain ⟨v, hv, hpath⟩ := h.exists_path_insertEach_version hf
  have hfollows := h.follows_insertEach .version (disk.recordsFound recursive folders)
  rcases h.standing_insertEach hv hf hpath with hstems | ⟨hreject, -⟩
  · obtain ⟨g, hg, n, hvg⟩ := hstems.eq_latest hfollows coherent_recordsFound hv
    obtain ⟨hgmem, hgpath⟩ := of_latest_eq_some hg
    have hgid : g.id = f.id := coherent_recordsFound g hgmem f hf (FilePath.same_trans hgpath hpath)
    have hread := (Disk.ofFile_of_mem_recordsFound hgmem).1
    have hkept : isLost disk folders v = false := by
      rw [hvg]
      exact isLost_of_mem_recordsFound hgmem _
    rw [latestAt_congr hpath] at hg
    refine ⟨v, (h.mem_scanned_iff hscan).2 ⟨hv, hkept⟩, hpath, ⟨n, ?_⟩, ?_, ?_⟩
    · rw [hvg, ← hgid]
    · rw [hvg, ← hgid]
      exact hread
    · have hlast := findsLast_of_latestAt_recordsFound hg
      rw [hvg]
      exact hlast
  · cases hreject

/-- At other paths a scan leaves exactly the old records that are not lost. -/
theorem Consistent.mem_scanned_version_iff (h : library.Consistent)
    (hscan : library.scan disk folders recursive .version = .ok (report, scanned)) {v : Wallpaper}
    (houtside : IsOutside disk recursive folders v.path) :
    v ∈ scanned.wallpapers ↔ v ∈ library.wallpapers ∧ disk.isFile v.path = true ∧
      disk.isFolder v.folder = true ∧
      ∃ folder ∈ folders, disk.isFolder folder = true ∧ v.folder.same folder = true := by
  rw [h.mem_scanned_iff hscan, isLost_eq_false_iff]
  refine and_congr_left fun _ => ⟨fun hv => ?_, fun hv => ?_⟩
  · rcases h.origin_insertEach hv with hold | ⟨g, hg, n, heq, -⟩
    · exact hold
    · have hsame := houtside g hg
      rw [heq, FilePath.same_refl] at hsame
      cases hsame
  · exact h.mem_insertEach_of_other (by decide) hv houtside

/-- Let a library that operations have made be scanned, with duplicates kept as versions.  At the
path of each file that was read there is then exactly one record.  It is kept under the digest of the
file or a version of it, is otherwise what the file gives, and names the last folder under which the
file was found.  At all other paths there are exactly the old records whose files and folders are
there and whose folders were scanned, as they were. -/
theorem scan_version_spec {operations : List Operation}
    (hscan : (empty.run operations).scan disk folders recursive .version = .ok (report, scanned)) :
    (∀ f ∈ disk.recordsFound recursive folders, ∃ v ∈ scanned.wallpapers,
      v.path.same f.path = true ∧
      (∀ u ∈ scanned.wallpapers, u.path.same f.path = true → u = v) ∧
      (∃ n, v.id = candidateId f.id n) ∧
      Wallpaper.ofFile disk v.path v.folder = .ok { v with id := f.id } ∧
      disk.FindsLast recursive folders v.folder f.path) ∧
    (∀ v ∈ scanned.wallpapers, IsOutside disk recursive folders v.path →
      v ∈ (empty.run operations).wallpapers ∧ disk.isFile v.path = true ∧
      disk.isFolder v.folder = true ∧
      ∃ folder ∈ folders, disk.isFolder folder = true ∧ v.folder.same folder = true) ∧
    (∀ v ∈ (empty.run operations).wallpapers, IsOutside disk recursive folders v.path →
      disk.isFile v.path = true → disk.isFolder v.folder = true →
      (∃ folder ∈ folders, disk.isFolder folder = true ∧ v.folder.same folder = true) →
      v ∈ scanned.wallpapers) := by
  have h := consistent_empty.run operations
  obtain ⟨hscanned, -, -, -⟩ := h.of_scan hscan
  refine ⟨fun f hf => ?_, fun v hv houtside => ?_, fun v hv houtside hfile hfolder hlisted => ?_⟩
  · obtain ⟨v, hv, hpath, htold⟩ := h.exists_scanned_version hscan hf
    refine ⟨v, hv, hpath, fun u hu hsame => ?_, htold⟩
    exact eq_of_path_same hscanned.pathsDistinct hu hv
      (by rw [FilePath.same_congr_right hpath]; exact hsame)
  · exact (h.mem_scanned_version_iff hscan houtside).1 hv
  · exact (h.mem_scanned_version_iff hscan houtside).2 ⟨hv, hfile, hfolder, hlisted⟩

end Version

/-- The record of the image as found under another spelling of its folder. -/
def respelledRecord : Wallpaper :=
  { imageRecord imageId "a.png" with path := ⟨"walls/./a.png"⟩, folder := ⟨"walls/."⟩ }

/-- An image that is found under two spellings of its folder is kept as found under the last. -/
theorem scan_version_spec_respelled :
    (empty.run []).scan imageDisk [⟨"walls"⟩, ⟨"walls/."⟩] true .version =
        .ok (⟨2, 1, 1, 0, 0, 0, 0⟩, ⟨[respelledRecord], []⟩) ∧
      Wallpaper.ofFile imageDisk respelledRecord.path respelledRecord.folder =
        .ok { respelledRecord with id := imageId } ∧
      imageDisk.FindsLast true [⟨"walls"⟩, ⟨"walls/."⟩] respelledRecord.folder
        ⟨"walls/a.png"⟩ := by
  have hfound : imageDisk.foundInAll true [⟨"walls"⟩, ⟨"walls/."⟩] =
      .ok [⟨⟨"walls/a.png"⟩, ⟨"walls"⟩⟩, ⟨⟨"walls/./a.png"⟩, ⟨"walls/."⟩⟩] := by decide +kernel
  have hrecords : imageDisk.recordsFound true [⟨"walls"⟩, ⟨"walls/."⟩] =
      [imageRecord imageId "a.png", respelledRecord] :=
    Disk.recordsFound_eq hfound (by decide +kernel) (by decide +kernel)
  have hscan : (empty.run []).scan imageDisk [⟨"walls"⟩, ⟨"walls/."⟩] true .version =
      .ok (⟨2, 1, 1, 0, 0, 0, 0⟩, ⟨[respelledRecord], []⟩) := by
    rw [(consistent_empty.run []).scan_eq hfound, hrecords]
    decide +kernel
  have hf : imageRecord imageId "a.png" ∈
      imageDisk.recordsFound true [⟨"walls"⟩, ⟨"walls/."⟩] := by
    rw [hrecords]
    exact List.mem_cons_self
  obtain ⟨v, hv, -, -, -, hread, hlast⟩ := (scan_version_spec hscan).1 _ hf
  obtain rfl := List.mem_singleton.1 hv
  exact ⟨hscan, hread, hlast⟩

end WallpaperRotation.Library
