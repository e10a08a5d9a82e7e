/-
# Outdated records

A record is outdated when the file at its path has changed since it was read.  A scan overwrites or
drops the outdated records of the files that it puts in, so where duplicates are kept as versions or
take each other's stead it leaves none.  Where they are refused, a file that has become a duplicate
keeps its outdated record.
-/
import WallpaperRotation.Proofs.Library.Refusal
import WallpaperRotation.Proofs.Library.Standing

namespace WallpaperRotation.Library

/-- The record tells of its file what a record that was read from the file just now tells, and is
kept under one of the candidates for the file's digest. -/
structure IsCurrent (f r : Wallpaper) : Prop where
  id : ∃ n, r.id = candidateId f.id n
  width : r.width = f.width
  height : r.height = f.height
  fileSize : r.fileSize = f.fileSize
  modifiedAt : r.modifiedAt = f.modifiedAt

/-! ## After a scan -/

section Scanned

variable {disk : Disk} {folders : List FilePath} {recursive : Bool} {policy : Policy}

/-- A record that stems from what a scan reads is current. -/
theorem StemsFrom.isCurrent {r f : Wallpaper}
    (hstems : StemsFrom policy (disk.recordsFound recursive folders) r)
    (hf : f ∈ disk.recordsFound recursive folders) (hpath : r.path.same f.path = true) :
    IsCurrent f r := by
  obtain ⟨g, hg, n, rfl, -⟩ := hstems
  have hsame := Disk.eq_of_mem_recordsFound hg hf hpath
  refine ⟨⟨n, ?_⟩, ?_, ?_, ?_, ?_⟩ <;> rw [hsame]

/-- A scan leaves only current records of the files that it reads, except where duplicates are
refused: then an outdated record stays exactly when its file is refused each time that it comes up,
as the file has become a duplicate of another one. -/
theorem scan_current_iff {operations : List Operation} {report : ScanReport} {scanned : Library}
    (hscan : (empty.run operations).scan disk folders recursive policy = .ok (report, scanned)) :
    (∀ r ∈ scanned.wallpapers, ∀ f ∈ disk.recordsFound recursive folders,
        r.path.same f.path = true → IsCurrent f r) ↔
      (policy = .reject → ∀ r ∈ (empty.run operations).wallpapers,
        ∀ f ∈ disk.recordsFound recursive folders, r.path.same f.path = true → r.id ≠ f.id →
        isLost disk folders r = false →
        (empty.run operations).Refuses r.path (disk.recordsFound recursive folders) →
        IsCurrent f r) := by
  have h := consistent_empty.run operations
  have hstays (hpolicy : policy = .reject) {r f : Wallpaper}
      (hr : r ∈ (empty.run operations).wallpapers) (hf : f ∈ disk.recordsFound recursive folders)
      (hpath : r.path.same f.path = true) (hid : r.id ≠ f.id) :
      r ∈ ((empty.run operations).insertEach policy
          (disk.recordsFound recursive folders)).wallpapers ↔
        (empty.run operations).Refuses r.path (disk.recordsFound recursive folders) := by
    rw [hpolicy]
    refine h.mem_insertEach_reject_iff hr fun g hg hgpath hgid => hid ?_
    rw [← hgid]
    exact coherent_recordsFound g hg f hf (FilePath.same_trans hgpath hpath)
  constructor
  · intro hall hpolicy r hr f hf hpath hid hkept hrefuses
    refine hall r ((h.mem_scanned_iff hscan).2 ⟨?_, hkept⟩) f hf hpath
    exact (hstays hpolicy hr hf hpath hid).2 hrefuses
  · intro hold r hr f hf hpath
    obtain ⟨hinserts, hkept⟩ := (h.mem_scanned_iff hscan).1 hr
    rcases h.standing_insertEach hinserts hf hpath with hstems | ⟨hpolicy, hbefore, hid⟩
    · exact hstems.isCurrent hf hpath
    · exact hold hpolicy r hbefore f hf hpath hid hkept
        ((hstays hpolicy hbefore hf hpath hid).1 hinserts)

end Scanned

/-- A changed file whose contents are not those of another file has its record overwritten also
where duplicates are refused. -/
theorem scan_current_iff_changed :
    (empty.run [.insert (imageRecord "old" "a.png") .version]).scan imageDisk [⟨"walls"⟩] true
        .reject = .ok (⟨1, 1, 0, 0, 0, 0, 0⟩, imageLibrary imageId "a.png") ∧
      ∀ r ∈ (imageLibrary imageId "a.png").wallpapers,
        ∀ f ∈ imageDisk.recordsFound true [⟨"walls"⟩], r.path.same f.path = true →
          IsCurrent f r := by
  have hscan : (empty.run [.insert (imageRecord "old" "a.png") .version]).scan imageDisk
      [⟨"walls"⟩] true .reject = .ok (⟨1, 1, 0, 0, 0, 0, 0⟩, imageLibrary imageId "a.png") := by
    decide +kernel
  have hstart : empty.run [.insert (imageRecord "old" "a.png") .version] =
      imageLibrary "old" "a.png" := by decide +kernel
  have hfound : imageDisk.recordsFound true [⟨"walls"⟩] = [imageRecord imageId "a.png"] := by
    decide +kernel
  have hnew : (imageLibrary "old" "a.png").insert (imageRecord imageId "a.png") .reject =
      .ok (.new imageId, imageLibrary imageId "a.png") := by decide +kernel
  refine ⟨hscan, (scan_current_iff hscan).2 ?_⟩
  rw [hstart, hfound]
  intro _ r hr f _ _ _ _ hrefuses
  obtain rfl := List.mem_singleton.1 hr
  obtain ⟨error, herror⟩ := hrefuses.1 (FilePath.same_refl _)
  rw [hnew] at herror
  cases herror

/-! ## A file that has become a copy -/

/-- A disk with the image under two names. -/
def copiesDisk : Disk :=
  ⟨[(["walls"], .folder true), (["walls", "a.png"], .file imageBytes 10),
    (["walls", "b.png"], .file imageBytes 10)], [], 0⟩

/-- The record of another image that the second name had before. -/
def formerRecord : Wallpaper :=
  { imageRecord "former" "b.png" with fileSize := 70 }

/-- The library of the image and of the other one. -/
def formerLibrary : Library :=
  ⟨[imageRecord imageId "a.png", formerRecord], []⟩

/-- The library of the image and of the other one is made by two inserts. -/
theorem run_formerLibrary :
    empty.run [.insert (imageRecord imageId "a.png") .reject, .insert formerRecord .reject] =
      formerLibrary := by
  have hfirst : empty.apply (.insert (imageRecord imageId "a.png") .reject) =
      imageLibrary imageId "a.png" := by decide +kernel
  have horder : precedes (imageRecord imageId "a.png") formerRecord = true := by decide +kernel
  rw [run, List.foldl_cons, hfirst, List.foldl_cons, List.foldl_nil, imageLibrary,
    apply_insert_beside (by decide +kernel) (by decide +kernel), horder]
  rfl

/-- The second name of an image is refused for the first one. -/
theorem formerLibrary_refuses :
    formerLibrary.Refuses formerRecord.path
      [imageRecord imageId "a.png", imageRecord imageId "b.png"] := by
  have hheld : formerLibrary.get? (imageRecord imageId "a.png").id =
      some (imageRecord imageId "a.png") := by decide +kernel
  have hwrite : formerLibrary.overwrite (imageRecord imageId "a.png") = formerLibrary := by
    decide +kernel
  have horder : precedes (imageRecord imageId "a.png") formerRecord = true := by decide +kernel
  have hfirst : formerLibrary.apply (.insert (imageRecord imageId "a.png") .reject) =
      formerLibrary := by
    simp only [apply, insert, hheld, FilePath.same_refl, hwrite]
    rw [formerLibrary, sorted_pair, horder]
    rfl
  refine ⟨fun hsame => ?_, ?_⟩
  · exact absurd hsame (by decide +kernel)
  · rw [hfirst]
    refine ⟨fun _ => ⟨.duplicateId imageId ⟨"walls/a.png"⟩, ?_⟩, trivial⟩
    decide +kernel

/-- Scans may leave outdated records where duplicates are refused: a file that was overwritten with
a copy of another one keeps its record of what was there before. -/
theorem not_scan_leaves_current :
    ¬ ∀ (operations : List Operation) (disk : Disk) (folders : List FilePath) (recursive : Bool)
        (policy : Policy) (report : ScanReport) (scanned : Library),
      (empty.run operations).scan disk folders recursive policy = .ok (report, scanned) →
      ∀ r ∈ scanned.wallpapers, ∀ f ∈ disk.recordsFound recursive folders,
        r.path.same f.path = true → IsCurrent f r := by
  intro hall
  have h := consistent_empty.run
    [.insert (imageRecord imageId "a.png") .reject, .insert formerRecord .reject]
  have hfound : copiesDisk.foundInAll true [⟨"walls"⟩] =
      .ok [⟨⟨"walls/a.png"⟩, ⟨"walls"⟩⟩, ⟨⟨"walls/b.png"⟩, ⟨"walls"⟩⟩] := by decide +kernel
  have hrecords : copiesDisk.recordsFound true [⟨"walls"⟩] =
      [imageRecord imageId "a.png", imageRecord imageId "b.png"] :=
    Disk.recordsFound_eq hfound (by decide +kernel) (by decide +kernel)
  have hscan := h.scan_eq hfound .reject
  -- The former record is there after the scan, as the file was refused.
  have hformer : formerRecord ∈ formerLibrary.wallpapers := by decide +kernel
  have hchanged : ∀ f ∈ [imageRecord imageId "a.png", imageRecord imageId "b.png"],
      f.path.same formerRecord.path = true → f.id ≠ formerRecord.id := by decide +kernel
  have hstays : formerRecord ∈ ((empty.run [.insert (imageRecord imageId "a.png") .reject,
      .insert formerRecord .reject]).insertEach .reject
        (copiesDisk.recordsFound true [⟨"walls"⟩])).wallpapers := by
    rw [hrecords]
    refine (h.mem_insertEach_reject_iff ?_ hchanged).2 ?_
    · rw [run_formerLibrary]
      exact hformer
    · rw [run_formerLibrary]
      exact formerLibrary_refuses
  have hkept : isLost copiesDisk [⟨"walls"⟩] formerRecord = false := by decide +kernel
  have hcurrent := hall _ _ _ _ _ _ _ hscan formerRecord
    ((h.mem_scanned_iff hscan).2 ⟨hstays, hkept⟩) (imageRecord imageId "b.png")
    (by rw [hrecords]; exact List.mem_cons_of_mem _ List.mem_cons_self) (FilePath.same_refl _)
  exact absurd hcurrent.fileSize (by decide)

end WallpaperRotation.Library
