/-
# What stands at the path of a file that was put in

After records were put in one after the other, a record is an old one or one of those put in under
one of its candidates.  At the path of a file that was put in stands the last record of the file,
unless the file was refused: then its old record may stay, under an identifier that is not the
file's.
-/
import WallpaperRotation.Proofs.Library.Settled

namespace WallpaperRotation.Library

/-! ## Where records come from -/

/-- The record is a record of a list under one of its candidates, and under its own identifier
where duplicates are not kept as versions. -/
def StemsFrom (policy : Policy) (records : List Wallpaper) (r : Wallpaper) : Prop :=
  ∃ f ∈ records, ∃ n, r = { f with id := candidateId f.id n } ∧ (policy ≠ .version → n = 0)

/-- A record that stems from some records stems from more of them. -/
theorem StemsFrom.mono {policy : Policy} {records others : List Wallpaper} {r : Wallpaper}
    (h : StemsFrom policy records r) (hsub : records ⊆ others) : StemsFrom policy others r := by
  obtain ⟨f, hf, hr⟩ := h
  exact ⟨f, hsub hf, hr⟩

/-- A slot is a candidate of the record's identifier. -/
theorem exists_candidateId_of_slot? {library : Library} {w : Wallpaper} {policy : Policy}
    {id : String} (hslot : library.slot? w policy = some id) :
    ∃ n, id = candidateId w.id n ∧ (policy ≠ .version → n = 0) := by
  by_cases hpolicy : policy = .version
  · subst hpolicy
    obtain ⟨n, hn, -⟩ := slot?_version library w
    exact ⟨n, Option.some.inj (hslot.symm.trans hn), fun hne => absurd rfl hne⟩
  · exact ⟨0, eq_of_slot? hpolicy hslot, fun _ => rfl⟩

/-- A record that was put in stems from the list that it was put in with. -/
theorem stemsFrom_of_slot? {library : Library} {w : Wallpaper} {policy : Policy} {id : String}
    (hslot : library.slot? w policy = some id) (records : List Wallpaper) :
    StemsFrom policy (records ++ [w]) { w with id := id } := by
  obtain ⟨n, rfl, hn⟩ := exists_candidateId_of_slot? hslot
  exact ⟨w, List.mem_append_right _ List.mem_cons_self, n, rfl, hn⟩

section Inserts

variable {library : Library} {policy : Policy} {records : List Wallpaper} {r : Wallpaper}

/-- After some inserts a record is one of the library or stems from those put in. -/
theorem Consistent.origin_insertEach (h : library.Consistent)
    (hr : r ∈ (library.insertEach policy records).wallpapers) :
    r ∈ library.wallpapers ∨ StemsFrom policy records r := by
  -- Induction from the end: the last insert adds one record at most.
  induction records using List.reverseRecOn with
  | nil => exact Or.inl hr
  | append_singleton records w ih =>
    have hnow := h.insertEach policy records
    rw [insertEach_append_singleton] at hr
    have hmore (hbefore : r ∈ (library.insertEach policy records).wallpapers) :
        r ∈ library.wallpapers ∨ StemsFrom policy (records ++ [w]) r := by
      rcases ih hbefore with hold | hstems
      · exact Or.inl hold
      · exact Or.inr (hstems.mono (List.subset_append_left records [w]))
    cases hslot : (library.insertEach policy records).slot? w policy with
    | none =>
      rw [apply_insert_of_slot?_eq_none hslot] at hr
      exact hmore hr
    | some id =>
      rw [hnow.apply_insert_of_slot hslot] at hr
      rcases hnow.mem_put.1 hr with rfl | ⟨hr, -, -⟩
      · exact Or.inr (stemsFrom_of_slot? hslot records)
      · exact hmore hr

/-- What stands at the path of a file that was put in stems from the records put in, unless the
file was refused: then it may be an old record under an identifier that is not the file's. -/
theorem Consistent.standing_insertEach (h : library.Consistent)
    (hr : r ∈ (library.insertEach policy records).wallpapers) {f : Wallpaper} (hf : f ∈ records)
    (hpath : r.path.same f.path = true) :
    StemsFrom policy records r ∨
      policy = .reject ∧ r ∈ library.wallpapers ∧ r.id ≠ f.id := by
  induction records using List.reverseRecOn with
  | nil => cases hf
  | append_singleton records w ih =>
    have hnow := h.insertEach policy records
    have hmore (hstems : StemsFrom policy records r) : StemsFrom policy (records ++ [w]) r :=
      hstems.mono (List.subset_append_left records [w])
    rw [insertEach_append_singleton] at hr
    cases hslot : (library.insertEach policy records).slot? w policy with
    | none =>
      obtain ⟨hreject, existing, hexisting, hid, hother, -⟩ := insert_of_slot?_eq_none hslot
      rw [apply_insert_of_slot?_eq_none hslot] at hr
      rcases List.mem_append.1 hf with hf | hf
      · exact (ih hr hf).imp_left hmore
      · -- The last file was refused for a record with its identifier and another path.
        obtain rfl := List.mem_singleton.1 hf
        rcases h.origin_insertEach hr with hold | hstems
        · refine Or.inr ⟨hreject, hold, fun hsame => ?_⟩
          rw [eq_of_id_eq hnow.idsDistinct hexisting hr (hid.trans hsame.symm), hpath] at hother
          cases hother
        · exact Or.inl (hmore hstems)
    | some id =>
      rw [hnow.apply_insert_of_slot hslot] at hr
      rcases hnow.mem_put.1 hr with rfl | ⟨hr, -, hother⟩
      · exact Or.inl (stemsFrom_of_slot? hslot records)
      · rcases List.mem_append.1 hf with hf | hf
        · exact (ih hr hf).imp_left hmore
        · rw [List.mem_singleton.1 hf, hother] at hpath
          cases hpath

/-- Where duplicates are kept as versions, something stands at the path of every file that was put
in. -/
theorem Consistent.exists_path_insertEach_version (h : library.Consistent) {f : Wallpaper}
    (hf : f ∈ records) :
    ∃ r ∈ (library.insertEach .version records).wallpapers, r.path.same f.path = true := by
  induction records using List.reverseRecOn with
  | nil => cases hf
  | append_singleton records w ih =>
    have hnow := h.insertEach .version records
    obtain ⟨n, hslot, hopen, -⟩ := slot?_version (library.insertEach .version records) w
    rw [insertEach_append_singleton, hnow.apply_insert_of_slot hslot]
    rcases List.mem_append.1 hf with hf | hf
    · obtain ⟨r, hr, hpath⟩ := ih hf
      by_cases hsame : r.path.same w.path = true
      · -- The record gives way to that of the same file.
        refine ⟨{ w with id := candidateId w.id n }, hnow.mem_put.2 (Or.inl rfl), ?_⟩
        exact FilePath.same_trans (by rw [FilePath.same_comm]; exact hsame) hpath
      · refine ⟨r, hnow.mem_put.2 (Or.inr ⟨hr, fun hid => hsame ?_, by simpa using hsame⟩), hpath⟩
        exact (isOpen_iff hnow.idsDistinct).1 hopen r hr hid
    · rw [List.mem_singleton.1 hf]
      exact ⟨_, hnow.mem_put.2 (Or.inl rfl), FilePath.same_refl _⟩

/-- A record that stems from coherent records is the last one of its file under a candidate. -/
theorem StemsFrom.eq_latest {now : Library} (hstems : StemsFrom policy records r)
    (hfollows : now.Follows policy records) (hcoherent : Coherent records)
    (hr : r ∈ now.wallpapers) :
    ∃ g, latestAt r.path records = some g ∧ ∃ n, r = { g with id := candidateId g.id n } := by
  obtain ⟨f, hf, n, heq, hn⟩ := hstems
  have hpath : f.path.same r.path = true := by
    rw [heq]
    exact FilePath.same_refl _
  obtain ⟨g, hg⟩ := exists_latest (fun w => w.path.same r.path) hf hpath
  obtain ⟨hgmem, hgpath⟩ := of_latest_eq_some hg
  have hfg : f.id = g.id :=
    hcoherent f hf g hgmem (by rw [FilePath.same_congr_right hgpath]; exact hpath)
  have hid : r.id = candidateId g.id n := by
    rw [heq, ← hfg]
  refine ⟨g, hg, n, ?_⟩
  rw [← hid]
  refine hfollows.atPath r hr g hg fun hreject => ?_
  rw [hid, hn (by rw [hreject]; decide)]
  rfl

end Inserts

/-! ## After a scan -/

/-- A record is not lost when its file and its folder are there and the folder is listed. -/
theorem isLost_eq_false_iff {disk : Disk} {folders : List FilePath} {w : Wallpaper} :
    isLost disk folders w = false ↔ disk.isFile w.path = true ∧ disk.isFolder w.folder = true ∧
      ∃ folder ∈ folders, disk.isFolder folder = true ∧ w.folder.same folder = true := by
  simp only [isLost, Wallpaper.isBacked, Bool.or_eq_false_iff, Bool.not_eq_false',
    List.any_eq_true, List.mem_filter, Bool.and_eq_true, and_assoc]
  constructor
  · rintro ⟨hlisted, hfile, hfolder⟩
    exact ⟨hfile, hfolder, hlisted⟩
  · rintro ⟨hfile, hfolder, hlisted⟩
    exact ⟨hlisted, hfile, hfolder⟩

/-- The records that a scan leaves are those that its inserts leave and that are not lost. -/
theorem Consistent.mem_scanned_iff {library scanned : Library} (h : library.Consistent)
    {disk : Disk} {folders : List FilePath} {recursive : Bool} {policy : Policy}
    {report : ScanReport}
    (hscan : library.scan disk folders recursive policy = .ok (report, scanned)) {r : Wallpaper} :
    r ∈ scanned.wallpapers ↔
      r ∈ (library.insertEach policy (disk.recordsFound recursive folders)).wallpapers ∧
        isLost disk folders r = false := by
  cases hfound : disk.foundInAll recursive folders with
  | error failure =>
    rw [scan, hfound] at hscan
    cases hscan
  | ok files =>
    rw [h.scan_eq hfound] at hscan
    obtain ⟨-, rfl⟩ := Prod.mk.inj (Except.ok.inj hscan)
    exact (h.insertEach policy _).mem_wallpapers_withoutWhere

end WallpaperRotation.Library
