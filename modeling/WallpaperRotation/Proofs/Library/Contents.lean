/-
# Contents of found files

After a scan the contents of each file that was read stand in the library, under the digest of the
file or a version of it, with a file that is there.  Only where duplicates are refused they may be
lost: the inserts of a scan come before its purge, so a file can be refused for a record that the
same scan drops.
-/
import WallpaperRotation.Proofs.Library.Refusal
import WallpaperRotation.Proofs.Library.Standing

namespace WallpaperRotation.Library

/-- Each file among the records that has the identifier, or a version of it, is refused each time
that it comes up. -/
def RefusesContents (library : Library) (id : String) (records : List Wallpaper) : Prop :=
  ∀ g ∈ records, (∃ n, g.id = candidateId id n) → library.Refuses g.path records

section Inserts

variable {library : Library} {id : String} {records : List Wallpaper}

/-- Where duplicates are refused, contents that were not refused each time stand in the library with
one of the files that were put in. -/
theorem Consistent.exists_of_not_refusesContents (h : library.Consistent)
    (hcoherent : Coherent records) (hnot : ¬library.RefusesContents id records) :
    ∃ v ∈ (library.insertEach .reject records).wallpapers, v ∈ records ∧
      ∃ n, v.id = candidateId id n := by
  unfold RefusesContents at hnot
  push Not at hnot
  obtain ⟨g, hg, ⟨n, hn⟩, htaken⟩ := hnot
  obtain ⟨v, hv, hpath, hmem⟩ := h.exists_of_not_refuses htaken
  exact ⟨v, hv, hmem, n, (hcoherent v hmem g hg hpath).trans hn⟩

/-- Where duplicates are refused and contents were refused each time, they stand in the library with
an old record whose file, if it came up, was refused. -/
theorem Consistent.mem_of_refusesContents (h : library.Consistent)
    (hrefuses : library.RefusesContents id records) {v : Wallpaper}
    (hv : v ∈ (library.insertEach .reject records).wallpapers)
    (hid : ∃ n, v.id = candidateId id n) :
    v ∈ library.wallpapers ∧ library.Refuses v.path records := by
  have hpath : library.Refuses v.path records := by
    by_contra htaken
    obtain ⟨g, hg, hsame, hmem⟩ := h.exists_of_not_refuses htaken
    -- The record of the file that was put in is this one, so its contents were refused.
    have hpaths := (h.insertEach .reject records).pathsDistinct
    rw [eq_of_path_same hpaths hg hv hsame] at hmem
    exact htaken (hrefuses v hmem hid)
  exact ⟨h.mem_of_refuses hpath hv, hpath⟩

end Inserts

/-! ## After a scan -/

section Scanned

variable {disk : Disk} {folders : List FilePath} {recursive : Bool} {policy : Policy}

/-- After a scan that does not refuse duplicates, each file that was read has its contents in the
library. -/
theorem Consistent.exists_scanned_of_ne_reject {library scanned : Library} (h : library.Consistent)
    {report : ScanReport}
    (hscan : library.scan disk folders recursive policy = .ok (report, scanned))
    (hpolicy : policy ≠ .reject) {f : Wallpaper}
    (hf : f ∈ disk.recordsFound recursive folders) :
    ∃ v ∈ scanned.wallpapers, ∃ n, v.id = candidateId f.id n := by
  cases policy with
  | reject => exact absurd rfl hpolicy
  | replace =>
    obtain ⟨-, -, -, hids⟩ := h.of_scan hscan
    obtain ⟨v, hv, hid⟩ := mem_ids.1 (hids rfl f hf)
    exact ⟨v, hv, 0, hid⟩
  | version =>
    obtain ⟨v, hv, hpath⟩ := h.exists_path_insertEach_version hf
    rcases h.standing_insertEach hv hf hpath with ⟨g, hg, n, rfl, -⟩ | ⟨hreject, -⟩
    · refine ⟨_, (h.mem_scanned_iff hscan).2 ⟨hv, isLost_of_mem_recordsFound hg _⟩, n, ?_⟩
      rw [coherent_recordsFound g hg f hf hpath]
    · cases hreject

/-- After a scan the contents of a file that was read are in the library, under the file's digest or
a version of it and with a file that is there.  Where duplicates are refused, this is so exactly
unless every file with the contents is refused each time that it comes up, and no old record of the
contents has a file and a folder that are there and, if its file comes up, has it refused. -/
theorem scan_keeps_contents_iff {operations : List Operation} {report : ScanReport}
    {scanned : Library}
    (hscan : (empty.run operations).scan disk folders recursive policy = .ok (report, scanned))
    {f : Wallpaper} (hf : f ∈ disk.recordsFound recursive folders) :
    (∃ v ∈ scanned.wallpapers, (∃ n, v.id = candidateId f.id n) ∧
        disk.isFile v.path = true) ↔
      (policy = .reject →
        (empty.run operations).RefusesContents f.id (disk.recordsFound recursive folders) →
        ∃ r ∈ (empty.run operations).wallpapers, (∃ n, r.id = candidateId f.id n) ∧
          isLost disk folders r = false ∧
          (empty.run operations).Refuses r.path (disk.recordsFound recursive folders)) := by
  have h := consistent_empty.run operations
  have hthere {v : Wallpaper} (hv : v ∈ scanned.wallpapers) : disk.isFile v.path = true :=
    (isLost_eq_false_iff.1 ((h.mem_scanned_iff hscan).1 hv).2).1
  constructor
  · rintro ⟨v, hv, hid, -⟩ rfl hrefuses
    obtain ⟨hinserts, hkept⟩ := (h.mem_scanned_iff hscan).1 hv
    obtain ⟨hbefore, hpath⟩ := h.mem_of_refusesContents hrefuses hinserts hid
    exact ⟨v, hbefore, hid, hkept, hpath⟩
  · intro hold
    by_cases hpolicy : policy = .reject
    · subst hpolicy
      by_cases hrefuses : (empty.run operations).RefusesContents f.id
          (disk.recordsFound recursive folders)
      · obtain ⟨r, hr, hid, hkept, hpath⟩ := hold rfl hrefuses
        have hinserts := h.mem_insertEach_of_refuses hr hpath
        have hscanned := (h.mem_scanned_iff hscan).2 ⟨hinserts, hkept⟩
        exact ⟨r, hscanned, hid, hthere hscanned⟩
      · obtain ⟨v, hv, hmem, hid⟩ :=
          h.exists_of_not_refusesContents coherent_recordsFound hrefuses
        have hscanned := (h.mem_scanned_iff hscan).2 ⟨hv, isLost_of_mem_recordsFound hmem v.id⟩
        exact ⟨v, hscanned, hid, hthere hscanned⟩
    · obtain ⟨v, hv, hid⟩ := h.exists_scanned_of_ne_reject hscan hpolicy hf
      exact ⟨v, hv, hid, hthere hv⟩

/-- A scan of the image into an empty library keeps its contents also where duplicates are refused. -/
theorem scan_keeps_contents_iff_empty :
    (empty.run []).scan imageDisk [⟨"walls"⟩] true .reject =
        .ok (⟨1, 1, 0, 0, 0, 0, 0⟩, imageLibrary imageId "a.png") ∧
      imageRecord imageId "a.png" ∈ imageDisk.recordsFound true [⟨"walls"⟩] ∧
      ∃ v ∈ (imageLibrary imageId "a.png").wallpapers, (∃ n, v.id = candidateId imageId n) ∧
        imageDisk.isFile v.path = true := by
  have hscan : (empty.run []).scan imageDisk [⟨"walls"⟩] true .reject =
      .ok (⟨1, 1, 0, 0, 0, 0, 0⟩, imageLibrary imageId "a.png") := by decide +kernel
  have hrecords : imageDisk.recordsFound true [⟨"walls"⟩] = [imageRecord imageId "a.png"] := by
    decide +kernel
  have hfound : imageRecord imageId "a.png" ∈ imageDisk.recordsFound true [⟨"walls"⟩] := by
    rw [hrecords]
    exact List.mem_cons_self
  have hnew : empty.insert (imageRecord imageId "a.png") .reject =
      .ok (.new imageId, imageLibrary imageId "a.png") := by decide +kernel
  refine ⟨hscan, hfound, (scan_keeps_contents_iff hscan hfound).2 fun _ hrefuses => ?_⟩
  -- Nothing is refused by an empty library.
  have hpath := hrefuses _ hfound ⟨0, rfl⟩
  rw [hrecords] at hpath
  obtain ⟨error, herror⟩ := hpath.1 (FilePath.same_refl _)
  exact absurd (hnew.symm.trans herror) (by simp)

/-- Contents may be lost where duplicates are refused: a file that was moved is refused for its old
record, which the scan then drops. -/
theorem not_scan_keeps_contents :
    ¬ ∀ (operations : List Operation) (disk : Disk) (folders : List FilePath) (recursive : Bool)
        (policy : Policy) (report : ScanReport) (scanned : Library),
      (empty.run operations).scan disk folders recursive policy = .ok (report, scanned) →
      ∀ f ∈ disk.recordsFound recursive folders, ∃ v ∈ scanned.wallpapers,
        (∃ n, v.id = candidateId f.id n) ∧ disk.isFile v.path = true := by
  intro hall
  have hscan : (empty.run [.insert (imageRecord imageId "b.png") .reject]).scan imageDisk
      [⟨"walls"⟩] true .reject = .ok (⟨1, 0, 0, 0, 1, 0, 1⟩, empty) := by decide +kernel
  have hfound : imageRecord imageId "a.png" ∈ imageDisk.recordsFound true [⟨"walls"⟩] := by
    decide +kernel
  obtain ⟨v, hv, -⟩ := hall _ _ _ _ _ _ _ hscan _ hfound
  cases hv

end Scanned

end WallpaperRotation.Library
