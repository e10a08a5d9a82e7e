/-
# Settled libraries

A library that a scan has left is settled when a second scan of the same disk leaves it as it is.
Where duplicates take each other's stead it always is.  Where they are refused, each file that can
be read has to have its identifier taken; where they are kept as versions, each has to be kept
under a candidate with all candidates before it taken.  A purge comes after the inserts of a scan,
so it can free the identifier that a file was refused, or a candidate before that of a file.
-/
import WallpaperRotation.Proofs.Library.Rescan

namespace WallpaperRotation.Library

/-! ## The condition -/

/-- The records that a scan reads find their slots as the scan has left them. -/
def Settled (library : Library) (policy : Policy) (records : List Wallpaper) : Prop :=
  match policy with
  | .replace => True
  | .reject => ∀ f ∈ records, f.id ∈ library.ids
  | .version => ∀ f ∈ records, ∃ r ∈ library.wallpapers, r.path.same f.path = true ∧
      ∃ n, r.id = candidateId f.id n ∧ ∀ m, m < n → candidateId f.id m ∈ library.ids

section Quiet

variable {start : Library} {policy : Policy} {found : List Wallpaper}

/-- Inserts into a settled library are quiet. -/
theorem Consistent.quiet_of_settled (h : start.Consistent) (hfollows : start.Follows policy found)
    (hcoherent : Coherent found)
    (hreplace : policy = .replace → ∀ f ∈ found, f.id ∈ start.ids)
    (hsettled : start.Settled policy found) {records : List Wallpaper} (hsub : records ⊆ found) :
    start.Quiet policy records := by
  -- Induction from the end: the inserts before the last one have only tracked the start, so what
  -- is settled there is still settled when the last record looks for its slot.
  induction records using List.reverseRecOn with
  | nil => trivial
  | append_singleton records f ih =>
    have hrecords := ih fun g hg => hsub (List.mem_append_left _ hg)
    have hf : f ∈ found := hsub (List.mem_append_right _ List.mem_cons_self)
    have htracks := h.tracks_insertEach hfollows hcoherent
      (fun g hg => hsub (List.mem_append_left _ hg)) hrecords
    refine quiet_append.2 ⟨hrecords, fun id hslot => ?_, trivial⟩
    cases policy with
    | replace =>
      rw [eq_of_slot? (by decide) hslot]
      exact htracks.ids_subset (hreplace rfl f hf)
    | reject =>
      rw [eq_of_slot? (by decide) hslot]
      exact htracks.ids_subset (hsettled f hf)
    | version =>
      obtain ⟨r, hr, hpath, n, hid, hheld⟩ := hsettled f hf
      obtain ⟨v, hv, hvid, hvpath, -⟩ := htracks.kept r hr
      have hown : v.path.same f.path = true := FilePath.same_trans (hvpath (by decide)) hpath
      have hagain := ((h.insertEach .version records).slot?_version_of_mem hv hown
        (hvid.trans hid)).2 fun m hm => htracks.ids_subset (hheld m hm)
      rw [← Option.some.inj (hagain.symm.trans hslot)]
      exact id_mem_ids hv

/-- A library is settled when the inserts into it are quiet. -/
theorem Consistent.settled_of_quiet (h : start.Consistent) (hfollows : start.Follows policy found)
    (hcoherent : Coherent found) (hquiet : start.Quiet policy found) :
    start.Settled policy found := by
  -- Each record finds its slot in a library that tracks the one at the start.
  have hsplit (f : Wallpaper) (hf : f ∈ found) : ∃ now, now.Consistent ∧
      (∃ records, Tracks policy records start now) ∧ now.QuietInsert policy f := by
    obtain ⟨records, others, rfl⟩ := List.append_of_mem hf
    obtain ⟨hrecords, hinsert, -⟩ := quiet_append.1 hquiet
    exact ⟨_, h.insertEach policy records, ⟨records, h.tracks_insertEach hfollows hcoherent
      (List.subset_append_left records _) hrecords⟩, hinsert⟩
  cases policy with
  | replace => trivial
  | reject =>
    intro f hf
    obtain ⟨now, hnow, ⟨records, htracks⟩, hinsert⟩ := hsplit f hf
    cases hslot : now.slot? f .reject with
    | none =>
      obtain ⟨-, existing, hexisting, hid, -⟩ := insert_of_slot?_eq_none hslot
      exact htracks.subset_ids (hid ▸ id_mem_ids hexisting)
    | some id =>
      have hheld := hinsert id hslot
      rw [eq_of_slot? (by decide) hslot] at hheld
      exact htracks.subset_ids hheld
  | version =>
    intro f hf
    obtain ⟨now, hnow, ⟨records, htracks⟩, hinsert⟩ := hsplit f hf
    obtain ⟨n, hslot, hopen, hfirst⟩ := slot?_version now f
    obtain ⟨c, hc, hcid⟩ := mem_ids.1 (hinsert _ hslot)
    obtain ⟨r, hr, hrid⟩ := htracks.known c hc
    obtain ⟨v, hv, hvid, hvpath, -⟩ := htracks.kept r hr
    obtain rfl := eq_of_id_eq hnow.idsDistinct hv hc (hvid.trans hrid)
    have hown := (isOpen_iff hnow.idsDistinct).1 hopen v hv hcid
    refine ⟨r, hr, ?_, n, hrid.trans hcid, fun m hm => ?_⟩
    · rw [FilePath.same_congr_left (by rw [FilePath.same_comm]; exact hvpath (by decide))]
      exact hown
    · obtain ⟨u, hu, huid, -⟩ := (isOpen_eq_false_iff hnow.idsDistinct).1 (hfirst m hm)
      exact htracks.subset_ids (huid ▸ id_mem_ids hu)

end Quiet

/-! ## After a scan -/

/-- Where duplicates take each other's stead, the identifiers of coherent records that were put in
are there. -/
theorem Consistent.id_mem_ids_insertEach {library : Library} (h : library.Consistent)
    {records : List Wallpaper} (hcoherent : Coherent records) {f : Wallpaper}
    (hf : f ∈ records) : f.id ∈ (library.insertEach .replace records).ids := by
  induction records using List.reverseRecOn with
  | nil => cases hf
  | append_singleton records w ih =>
    have hrecords := h.insertEach .replace records
    have hw : w ∈ records ++ [w] := List.mem_append_right _ List.mem_cons_self
    rw [insertEach_append_singleton, hrecords.apply_insert_of_slot (slot?_replace _ w),
      hrecords.mem_ids_put]
    by_cases hid : f.id = w.id
    · exact Or.inl hid
    · -- The identifier was there before the last insert, and its record stays: it is the last one
      -- with the identifier, so it is of another file.
      have hf' : f ∈ records := by
        rcases List.mem_append.1 hf with hf | hf
        · exact hf
        · exact absurd (by rw [List.mem_singleton.1 hf]) hid
      obtain ⟨v, hv, hvid⟩ := mem_ids.1 (ih (fun a ha b hb => hcoherent a
        (List.mem_append_left _ ha) b (List.mem_append_left _ hb)) hf')
      obtain ⟨g, hg⟩ := exists_latest (fun a => a.id = v.id) hf' (by simp [hvid])
      obtain ⟨hgmem, -⟩ := of_latest_eq_some hg
      obtain rfl := (h.follows_insertEach .replace records).underId rfl v hv g hg
      refine Or.inr ⟨v, hv, hvid, ?_⟩
      by_contra hpath
      exact hid (hvid.symm.trans (hcoherent v (List.mem_append_left _ hgmem) w hw
        (by simpa using hpath)))

section Scanned

variable {disk : Disk} {folders : List FilePath} {recursive : Bool} {policy : Policy}

/-- The records that a scan reads are coherent. -/
theorem coherent_recordsFound : Coherent (disk.recordsFound recursive folders) :=
  fun _ hf _ hg hpath => Disk.id_eq_of_mem_recordsFound hf hg hpath

/-- Scans of one disk put the same records into any library and drop what is lost. -/
theorem Consistent.scan_eq {library : Library} (h : library.Consistent) {files : List FoundFile}
    (hfound : disk.foundInAll recursive folders = .ok files) (policy : Policy) :
    library.scan disk folders recursive policy =
      .ok ({ (library.insertAll policy (reportFound disk files)
            (disk.recordsFound recursive folders)).1 with
          removed := ((library.insertEach policy (disk.recordsFound recursive folders)).wallpapers
            |>.filter (isLost disk folders)).length },
        (library.insertEach policy (disk.recordsFound recursive folders)).withoutWhere
          (isLost disk folders)) := by
  have hrecords := Disk.recordsFound_eq_scanOrder hfound
  have hlibrary := insertAll_snd library policy (reportFound disk files)
    (scanOrder (disk.records files))
  have hpurge := (h.insertEach policy (scanOrder (disk.records files))).purge_eq disk folders
  rw [← hlibrary] at hpurge
  rw [hrecords, ← hlibrary]
  simp only [Library.scan, hfound, Except.map, absorb]
  simp only [reportFound] at hpurge ⊢
  rw [hpurge]

/-- A scan after whose inserts nothing is lost drops nothing. -/
theorem Consistent.scan_eq_of_kept {library : Library} (h : library.Consistent)
    {files : List FoundFile} (hfound : disk.foundInAll recursive folders = .ok files)
    (hkept : ∀ v ∈ (library.insertEach policy (disk.recordsFound recursive folders)).wallpapers,
      isLost disk folders v = false) :
    library.scan disk folders recursive policy =
      .ok ({ (library.insertAll policy (reportFound disk files)
            (disk.recordsFound recursive folders)).1 with removed := 0 },
        library.insertEach policy (disk.recordsFound recursive folders)) := by
  have hnone : (library.insertEach policy (disk.recordsFound recursive folders)).wallpapers.filter
      (isLost disk folders) = [] :=
    List.filter_eq_nil_iff.2 fun v hv => by rw [hkept v hv]; exact Bool.false_ne_true
  rw [h.scan_eq hfound, hnone, (h.insertEach policy _).withoutWhere_eq_self hkept]
  rfl

/-- What a scan leaves of a consistent library is consistent, follows the records that the scan
reads, and has lost nothing; where duplicates take each other's stead, it has all identifiers of
these records. -/
theorem Consistent.of_scan {library scanned : Library} (h : library.Consistent)
    {report : ScanReport}
    (hscan : library.scan disk folders recursive policy = .ok (report, scanned)) :
    scanned.Consistent ∧ scanned.Follows policy (disk.recordsFound recursive folders) ∧
      (∀ r ∈ scanned.wallpapers, isLost disk folders r = false) ∧
      (policy = .replace → ∀ f ∈ disk.recordsFound recursive folders, f.id ∈ scanned.ids) := by
  cases hfound : disk.foundInAll recursive folders with
  | error failure =>
    rw [scan, hfound] at hscan
    cases hscan
  | ok files =>
    have hrecords := h.insertEach policy (disk.recordsFound recursive folders)
    have hfollows := h.follows_insertEach policy (disk.recordsFound recursive folders)
    rw [h.scan_eq hfound] at hscan
    obtain ⟨-, rfl⟩ := Prod.mk.inj (Except.ok.inj hscan)
    refine ⟨hrecords.without _, hfollows.of_subset fun r hr =>
      (hrecords.mem_wallpapers_withoutWhere.1 hr).1, fun r hr =>
      (hrecords.mem_wallpapers_withoutWhere.1 hr).2, fun hpolicy f hf => ?_⟩
    subst hpolicy
    -- What has the identifier was read from the disk just now, so the purge leaves it.
    obtain ⟨v, hv, hid⟩ := mem_ids.1 (h.id_mem_ids_insertEach coherent_recordsFound hf)
    obtain ⟨g, hg⟩ := exists_latest (fun w => w.id = v.id) hf (by simp [hid])
    obtain ⟨hgfound, -⟩ := of_latest_eq_some hg
    obtain rfl := hfollows.underId rfl v hv g hg
    refine mem_ids.2 ⟨v, hrecords.mem_wallpapers_withoutWhere.2 ⟨hv, ?_⟩, hid⟩
    exact isLost_of_mem_recordsFound hgfound v.id

/-- A second scan of the same disk leaves a settled library as it is, and adds, versions and removes
nothing. -/
theorem Consistent.scan_again_of_settled {library scanned : Library} (hlibrary : library.Consistent)
    {report : ScanReport}
    (hscan : library.scan disk folders recursive policy = .ok (report, scanned))
    (hsettled : scanned.Settled policy (disk.recordsFound recursive folders)) :
    ∃ again, scanned.scan disk folders recursive policy = .ok (again, scanned) ∧
      again.added = 0 ∧ again.versioned = 0 ∧ again.removed = 0 := by
  obtain ⟨h, hfollows, hkept, hreplace⟩ := hlibrary.of_scan hscan
  cases hfound : disk.foundInAll recursive folders with
  | error failure =>
    rw [scan, hfound] at hscan
    cases hscan
  | ok files =>
    have hall := h.quiet_of_settled hfollows coherent_recordsFound hreplace hsettled
      (List.Subset.refl _)
    have hself := h.insertEach_eq_self hfollows coherent_recordsFound hall
    have heq := h.scan_eq_of_kept hfound (by rw [hself]; exact hkept)
    obtain ⟨hadded, hversioned⟩ := (h.quiet_iff policy (reportFound disk files) _).1 hall
    rw [hself] at heq
    exact ⟨_, heq, hadded, hversioned, rfl⟩

/-- A second scan of the same disk leaves a library that operations and a scan have made as it is,
and adds, versions and removes nothing, exactly when the library is settled. -/
theorem scan_again_iff {operations : List Operation} {report : ScanReport} {scanned : Library}
    (hscan : (empty.run operations).scan disk folders recursive policy = .ok (report, scanned)) :
    (∃ again, scanned.scan disk folders recursive policy = .ok (again, scanned) ∧
      again.added = 0 ∧ again.versioned = 0 ∧ again.removed = 0) ↔
        scanned.Settled policy (disk.recordsFound recursive folders) := by
  obtain ⟨h, hfollows, -, -⟩ := (consistent_empty.run operations).of_scan hscan
  cases hfound : disk.foundInAll recursive folders with
  | error failure =>
    rw [scan, hfound] at hscan
    cases hscan
  | ok files =>
    have heq := h.scan_eq hfound policy
    have hquiet := h.quiet_iff policy (reportFound disk files)
      (disk.recordsFound recursive folders)
    constructor
    · rintro ⟨again, hagain, hadded, hversioned, -⟩
      obtain ⟨rfl, -⟩ := Prod.mk.inj (Except.ok.inj (heq.symm.trans hagain))
      exact h.settled_of_quiet hfollows coherent_recordsFound (hquiet.2 ⟨hadded, hversioned⟩)
    · intro hsettled
      exact (consistent_empty.run operations).scan_again_of_settled hscan hsettled

end Scanned

/-! ## One image under two names -/

/-- The bytes of an image of two by two pixels. -/
def imageBytes : ByteArray :=
  ⟨#[0x89, 0x50, 0x4e, 0x47, 0x0d, 0x0a, 0x1a, 0x0a, 0x00, 0x00, 0x00, 0x0d, 0x49, 0x48, 0x44, 0x52,
    0x00, 0x00, 0x00, 0x02, 0x00, 0x00, 0x00, 0x02, 0x08, 0x02, 0x00, 0x00, 0x00, 0xfd, 0xd4, 0x9a,
    0x73, 0x00, 0x00, 0x00, 0x0e, 0x49, 0x44, 0x41, 0x54, 0x78, 0xda, 0x63, 0x60, 0x06, 0x03, 0x06,
    0x08, 0x05, 0x00, 0x01, 0x0a, 0x00, 0x25, 0xa5, 0x48, 0x5e, 0x17, 0x00, 0x00, 0x00, 0x00, 0x49,
    0x45, 0x4e, 0x44, 0xae, 0x42, 0x60, 0x82]⟩

/-- A disk with the image in a folder. -/
def imageDisk : Disk :=
  ⟨[(["walls"], .folder true), (["walls", "a.png"], .file imageBytes 10)], [], 0⟩

/-- The digest of the image. -/
def imageId : String :=
  "26ff1d1b86a23244cc405191c6ed26d4e2de8d00c5880ee651c39d43efd87adb"

/-- The record of the image under an identifier and a name. -/
def imageRecord (id name : String) : Wallpaper :=
  ⟨id, name, ⟨"walls/" ++ name⟩, 2, 2, ⟨"walls"⟩, 71, 10⟩

/-- The library of the image. -/
def imageLibrary (id name : String) : Library := ⟨[imageRecord id name], []⟩

/-- A scan into an empty library leaves one that is settled. -/
theorem scan_again_iff_empty :
    (empty.run []).scan imageDisk [⟨"walls"⟩] true .version =
        .ok (⟨1, 1, 0, 0, 0, 0, 0⟩, imageLibrary imageId "a.png") ∧
      ∃ again, (imageLibrary imageId "a.png").scan imageDisk [⟨"walls"⟩] true .version =
          .ok (again, imageLibrary imageId "a.png") ∧
        again.added = 0 ∧ again.versioned = 0 ∧ again.removed = 0 := by
  have hscan : (empty.run []).scan imageDisk [⟨"walls"⟩] true .version =
      .ok (⟨1, 1, 0, 0, 0, 0, 0⟩, imageLibrary imageId "a.png") := by decide +kernel
  have hfound : imageDisk.recordsFound true [⟨"walls"⟩] = [imageRecord imageId "a.png"] := by
    decide +kernel
  refine ⟨hscan, (scan_again_iff hscan).2 fun f hf => ?_⟩
  rw [hfound, List.mem_singleton] at hf
  subst hf
  exact ⟨_, List.mem_cons_self, FilePath.same_refl _, 0, rfl,
    fun m hm => absurd hm (Nat.not_lt_zero m)⟩

/-- A file that has the place of a record under the same identifier is kept as a version. -/
theorem insertEach_moved :
    (imageLibrary imageId "b.png").insertEach .version [imageRecord imageId "a.png"] =
      ⟨[imageRecord (versionId imageId 2) "a.png", imageRecord imageId "b.png"], []⟩ := by
  have hheld : (imageLibrary imageId "b.png").get? (imageRecord imageId "a.png").id =
      some (imageRecord imageId "b.png") := by decide +kernel
  have hpath : (imageRecord imageId "b.png").path.same (imageRecord imageId "a.png").path =
      false := by decide +kernel
  have hversion : (imageLibrary imageId "b.png").insertVersion (imageRecord imageId "a.png") =
      (.versioned (versionId imageId 2), ⟨[imageRecord imageId "b.png",
        imageRecord (versionId imageId 2) "a.png"], []⟩) := by decide +kernel
  have horder : precedes (imageRecord imageId "b.png")
      (imageRecord (versionId imageId 2) "a.png") = false := by decide +kernel
  rw [insertEach, List.map_singleton, run, List.foldl_cons, List.foldl_nil]
  simp only [apply, insert, hheld, hpath, hversion, sorted_pair, horder]
  rfl

/-- Scans are not idempotent where duplicates are kept as versions: a file that was moved is kept
as a version of its old record, which is then purged, and the next scan keeps the file under the
identifier that has become free. -/
theorem not_scan_again :
    ¬ ∀ (operations : List Operation) (disk : Disk) (folders : List FilePath) (recursive : Bool)
        (policy : Policy) (report : ScanReport) (scanned : Library),
      (empty.run operations).scan disk folders recursive policy = .ok (report, scanned) →
      ∃ again, scanned.scan disk folders recursive policy = .ok (again, scanned) ∧
        again.added = 0 ∧ again.versioned = 0 ∧ again.removed = 0 := by
  intro h
  have hstart : empty.run [.insert (imageRecord imageId "b.png") .version] =
      imageLibrary imageId "b.png" := by decide +kernel
  have hconsistent := consistent_empty.run [.insert (imageRecord imageId "b.png") .version]
  have hfound : imageDisk.foundInAll true [⟨"walls"⟩] = .ok [⟨⟨"walls/a.png"⟩, ⟨"walls"⟩⟩] := by
    decide +kernel
  have hrecords : imageDisk.recordsFound true [⟨"walls"⟩] = [imageRecord imageId "a.png"] := by
    decide +kernel
  have hpurge : withoutWhere
      ⟨[imageRecord (versionId imageId 2) "a.png", imageRecord imageId "b.png"], []⟩
      (isLost imageDisk [⟨"walls"⟩]) = imageLibrary (versionId imageId 2) "a.png" := by
    decide +kernel
  -- The scan after the move keeps the file as a version and drops the old record.
  have hfirst := hconsistent.scan_eq hfound .version
  rw [hrecords, hstart, insertEach_moved, hpurge, ← hstart] at hfirst
  obtain ⟨again, hagain, -⟩ := h _ _ _ _ _ _ _ hfirst
  -- The scan after that keeps it under the identifier itself.
  have hsecond : (imageLibrary (versionId imageId 2) "a.png").scan imageDisk [⟨"walls"⟩] true
      .version = .ok (⟨1, 1, 0, 0, 0, 0, 0⟩, imageLibrary imageId "a.png") := by decide +kernel
  rw [hsecond] at hagain
  obtain ⟨-, hsame⟩ := Prod.mk.inj (Except.ok.inj hagain)
  exact absurd hsame (by decide +kernel)

end WallpaperRotation.Library
