/-
# Scanning again

A second scan of the same disk reads the same records.  It leaves the library as it was when each
of its inserts finds a slot that is taken already: then it puts the last record of each file where
the first scan had put it.  Where duplicates take each other's stead that is always so.  Where they
are refused or kept as versions it depends on what the purge at the end of the first scan has freed.
-/
import WallpaperRotation.Proofs.Library.Found
import WallpaperRotation.Proofs.Library.Latest

namespace WallpaperRotation.Library

/-! ## Quiet inserts -/

/-- An insert would add no record: the slot that it finds, if any, is taken. -/
def QuietInsert (library : Library) (policy : Policy) (w : Wallpaper) : Prop :=
  ∀ id, library.slot? w policy = some id → id ∈ library.ids

/-- None of the inserts, one after the other, adds a record. -/
def Quiet (library : Library) (policy : Policy) : List Wallpaper → Prop
  | [] => True
  | w :: records =>
    library.QuietInsert policy w ∧ (library.apply (.insert w policy)).Quiet policy records

/-- Inserts are quiet when the first ones are and then the others. -/
theorem quiet_append {library : Library} {policy : Policy} {records others : List Wallpaper} :
    library.Quiet policy (records ++ others) ↔
      library.Quiet policy records ∧ (library.insertEach policy records).Quiet policy others := by
  induction records generalizing library with
  | nil => exact (and_iff_right trivial).symm
  | cons w records ih =>
    rw [List.cons_append, Quiet, Quiet, ih, and_assoc]
    rfl

/-- Inserts only count up. -/
theorem le_insertAll (library : Library) (policy : Policy) (report : ScanReport)
    (records : List Wallpaper) :
    report.added ≤ (library.insertAll policy report records).1.added ∧
      report.versioned ≤ (library.insertAll policy report records).1.versioned := by
  induction records generalizing library report with
  | nil => exact ⟨Nat.le_refl _, Nat.le_refl _⟩
  | cons w records ih =>
    unfold insertAll
    cases library.insert w policy with
    | error error => exact ih library (report.count (.error error))
    | ok result =>
      obtain ⟨outcome, next⟩ := result
      have hrest := ih next (report.count (.ok outcome))
      cases outcome <;> simp only [ScanReport.count] at hrest ⊢ <;> omega

/-- Inserts are quiet when they count no addition and no version. -/
theorem Consistent.quiet_iff {library : Library} (h : library.Consistent) (policy : Policy)
    (report : ScanReport) (records : List Wallpaper) :
    library.Quiet policy records ↔
      (library.insertAll policy report records).1.added = report.added ∧
        (library.insertAll policy report records).1.versioned = report.versioned := by
  induction records generalizing library report with
  | nil => exact iff_of_true trivial ⟨rfl, rfl⟩
  | cons w records ih =>
    unfold Quiet insertAll
    cases hslot : library.slot? w policy with
    | none =>
      have hquiet : library.QuietInsert policy w := fun id hid => by
        rw [hslot] at hid
        cases hid
      obtain ⟨-, existing, -, -, -, hrefused⟩ := insert_of_slot?_eq_none hslot
      rw [and_iff_right hquiet, apply_insert_of_slot?_eq_none hslot, hrefused]
      exact ih h _
    | some id =>
      rw [h.apply_insert_of_slot hslot, h.insert_of_slot hslot]
      have hrest := ih (h.put { w with id := id })
        (report.count (.ok (library.outcome w id)))
      have hle := le_insertAll (library.put { w with id := id }) policy
        (report.count (.ok (library.outcome w id))) records
      unfold outcome at hrest hle ⊢
      -- An insert that adds a record is counted, and the later ones do not take that back.
      by_cases hid : id ∈ library.ids
      · have hquiet : library.QuietInsert policy w := fun other hother => by
          rw [← Option.some.inj (hslot.symm.trans hother)]
          exact hid
        simp only [if_pos hid] at hrest ⊢
        rw [and_iff_right hquiet]
        exact hrest
      · have hloud : ¬library.QuietInsert policy w := fun hquiet => hid (hquiet id hslot)
        simp only [if_neg hid] at hle ⊢
        refine iff_of_false (fun hall => hloud hall.1) fun hcounts => ?_
        by_cases hown : id = w.id
        · simp only [if_pos hown, ScanReport.count] at hle hcounts
          omega
        · simp only [if_neg hown, ScanReport.count] at hle hcounts
          omega

/-! ## Quiet runs -/

/-- The record that is put in may take the stead of another one: it is of the same file, where
duplicates do not take each other's stead, and of the same identifier, where they are not kept as
versions. -/
def Touches (policy : Policy) (f r : Wallpaper) : Prop :=
  (policy ≠ .replace → f.path.same r.path = true) ∧ (policy ≠ .version → f.id = r.id)

/-- After some records were put in, a library has the tags and identifiers that it had at the
start, and every record is what it was or was touched. -/
structure Tracks (policy : Policy) (records : List Wallpaper) (start now : Library) : Prop where
  tags : now.tags = start.tags
  known : ∀ v ∈ now.wallpapers, ∃ r ∈ start.wallpapers, r.id = v.id
  kept : ∀ r ∈ start.wallpapers, ∃ v ∈ now.wallpapers, v.id = r.id ∧
    (policy ≠ .replace → v.path.same r.path = true) ∧ (v = r ∨ ∃ f ∈ records, Touches policy f r)
  source : policy = .replace → ∀ v ∈ now.wallpapers, v ∈ start.wallpapers ∨ v ∈ records

/-- A library tracks itself. -/
theorem Tracks.refl (policy : Policy) (library : Library) : Tracks policy [] library library where
  tags := rfl
  known v hv := ⟨v, hv, rfl⟩
  kept r hr := ⟨r, hr, rfl, fun _ => FilePath.same_refl _, Or.inl rfl⟩
  source _ _ hv := Or.inl hv

/-- The identifiers at the start are there. -/
theorem Tracks.ids_subset {policy : Policy} {records : List Wallpaper} {start now : Library}
    (h : Tracks policy records start now) {id : String} (hid : id ∈ start.ids) : id ∈ now.ids := by
  obtain ⟨r, hr, rfl⟩ := mem_ids.1 hid
  obtain ⟨v, hv, hvid, -⟩ := h.kept r hr
  exact mem_ids.2 ⟨v, hv, hvid⟩

/-- No other identifiers are there. -/
theorem Tracks.subset_ids {policy : Policy} {records : List Wallpaper} {start now : Library}
    (h : Tracks policy records start now) {id : String} (hid : id ∈ now.ids) : id ∈ start.ids := by
  obtain ⟨v, hv, rfl⟩ := mem_ids.1 hid
  exact mem_ids.2 (h.known v hv)

/-- A quiet insert goes on tracking the start. -/
theorem Tracks.apply_insert {policy : Policy} {records : List Wallpaper} {start now : Library}
    (htracks : Tracks policy records start now) (h : now.Consistent) {f : Wallpaper}
    (hquiet : now.QuietInsert policy f)
    (hown : policy = .replace → ∀ v ∈ now.wallpapers, v.path.same f.path = true → v.id = f.id) :
    Tracks policy (records ++ [f]) start (now.apply (.insert f policy)) := by
  have hmore {r : Wallpaper} : (∃ g ∈ records, Touches policy g r) →
      ∃ g ∈ records ++ [f], Touches policy g r := by
    rintro ⟨g, hg, htouches⟩
    exact ⟨g, List.mem_append_left _ hg, htouches⟩
  cases hslot : now.slot? f policy with
  | none =>
    -- The insert is refused, so only the list of the records that were tried grows.
    rw [apply_insert_of_slot?_eq_none hslot]
    refine ⟨htracks.tags, htracks.known, fun r hr => ?_, fun hpolicy v hv => ?_⟩
    · obtain ⟨v, hv, hid, hpath, hsame⟩ := htracks.kept r hr
      exact ⟨v, hv, hid, hpath, hsame.imp_right hmore⟩
    · exact (htracks.source hpolicy v hv).imp_right (List.mem_append_left _)
  | some id =>
    rw [h.apply_insert_of_slot hslot]
    have hheld := hquiet id hslot
    obtain ⟨c, hc, rfl⟩ := mem_ids.1 hheld
    -- Where duplicates do not take each other's stead, the slot belongs to the file already.
    have hfile (hpolicy : policy ≠ .replace) : c.path.same f.path = true :=
      (isOpen_iff h.idsDistinct).1 (isOpen_of_slot? hpolicy hslot) c hc rfl
    -- So no record of the file stands under another identifier, and no tag is touched.
    have hstale (v : Wallpaper) (hv : v ∈ now.wallpapers) (hpath : v.path.same f.path = true) :
        v.id = c.id := by
      by_cases hpolicy : policy = .replace
      · rw [hown hpolicy v hv hpath, eq_of_slot? (by rw [hpolicy]; decide) hslot]
      · rw [eq_of_path_same h.pathsDistinct hv hc
          (by rw [FilePath.same_congr_left hpath, FilePath.same_comm]; exact hfile hpolicy)]
    refine ⟨?_, fun v hv => ?_, fun r hr => ?_, fun hpolicy v hv => ?_⟩
    · rw [tags_put, h.dropStale_eq_self hstale, htracks.tags]
    · rcases h.mem_put.1 hv with rfl | ⟨hv, -, -⟩
      · exact htracks.known c hc
      · exact htracks.known v hv
    · obtain ⟨v, hv, hid, hpath, hsame⟩ := htracks.kept r hr
      by_cases hvc : v.id = c.id
      · obtain rfl := eq_of_id_eq h.idsDistinct hv hc hvc
        have hpath' (hpolicy : policy ≠ .replace) : f.path.same r.path = true := by
          rw [FilePath.same_congr_left (by rw [FilePath.same_comm]; exact hfile hpolicy)]
          exact hpath hpolicy
        refine ⟨{ f with id := v.id }, h.mem_put.2 (Or.inl rfl), hid, hpath', Or.inr
          ⟨f, List.mem_append_right _ List.mem_cons_self, hpath', fun hpolicy => ?_⟩⟩
        rw [← eq_of_slot? hpolicy hslot, hid]
      · refine ⟨v, h.mem_put.2 (Or.inr ⟨hv, hvc, ?_⟩), hid, hpath, hsame.imp_right hmore⟩
        by_contra hsame
        exact hvc (hstale v hv (by simpa using hsame))
    · rcases h.mem_put.1 hv with rfl | ⟨hv, -, -⟩
      · rw [eq_of_slot? (by rw [hpolicy]; decide) hslot]
        exact Or.inr (List.mem_append_right _ List.mem_cons_self)
      · exact (htracks.source hpolicy v hv).imp_right (List.mem_append_left _)

/-- Records of one path in the list have one identifier. -/
def Coherent (records : List Wallpaper) : Prop :=
  ∀ f ∈ records, ∀ g ∈ records, f.path.same g.path = true → f.id = g.id

section Again

variable {start : Library} {policy : Policy} {found : List Wallpaper}

/-- Quiet inserts of records that a library follows track the library. -/
theorem Consistent.tracks_insertEach (h : start.Consistent) (hfollows : start.Follows policy found)
    (hcoherent : Coherent found) {records : List Wallpaper} (hsub : records ⊆ found)
    (hquiet : start.Quiet policy records) :
    Tracks policy records start (start.insertEach policy records) := by
  -- Induction from the end: the last insert meets the library that the other ones have left.
  induction records using List.reverseRecOn with
  | nil => exact Tracks.refl policy start
  | append_singleton records f ih =>
    obtain ⟨hrecords, hlast, -⟩ := quiet_append.1 hquiet
    have htracks := ih (fun g hg => hsub (List.mem_append_left _ hg)) hrecords
    have hf : f ∈ found := hsub (List.mem_append_right _ List.mem_cons_self)
    rw [insertEach_append_singleton]
    refine htracks.apply_insert (h.insertEach policy records) hlast fun hpolicy v hv hpath => ?_
    rcases htracks.source hpolicy v hv with hv | hv
    · obtain ⟨g, hg⟩ := exists_latest (fun w => w.path.same v.path) hf
        (by rw [FilePath.same_comm]; exact hpath)
      obtain ⟨hgfound, hgpath⟩ := of_latest_eq_some hg
      rw [hfollows.ownId hpolicy v hv g hg]
      exact hcoherent g hgfound f hf (FilePath.same_trans hgpath hpath)
    · exact hcoherent v (hsub (List.mem_append_left _ hv)) f hf hpath

/-- A touched record is the last one of its kind again. -/
theorem eq_of_touches {now : Library} (hstart : start.Follows policy found)
    (hnow : now.Follows policy found) (hcoherent : Coherent found) {f r v : Wallpaper}
    (hr : r ∈ start.wallpapers) (hv : v ∈ now.wallpapers) (hid : v.id = r.id)
    (hpath : policy ≠ .replace → v.path.same r.path = true) (hf : f ∈ found)
    (htouches : Touches policy f r) : v = r := by
  by_cases hpolicy : policy = .replace
  · -- Before and after, the record is the last one with the identifier.
    obtain ⟨g, hg⟩ := exists_latest (fun w => w.id = r.id) hf
      (decide_eq_true (htouches.2 (by rw [hpolicy]; decide)))
    rw [hstart.underId hpolicy r hr g hg]
    exact hnow.underId hpolicy v hv g (by rw [hid]; exact hg)
  · -- Before and after, the record is the last one of the file, under one identifier.
    have hfr := htouches.1 hpolicy
    obtain ⟨g, hg⟩ := exists_latest (fun w => w.path.same r.path) hf hfr
    obtain ⟨hgfound, hgpath⟩ := of_latest_eq_some hg
    have hgid : policy = .reject → r.id = g.id := fun hreject => by
      rw [← htouches.2 (by rw [hreject]; decide)]
      exact hcoherent f hf g hgfound (by rw [FilePath.same_congr_right hgpath]; exact hfr)
    have hlatest : latestAt v.path found = some g := by
      rw [latestAt_congr (hpath hpolicy)]
      exact hg
    rw [hstart.atPath r hr g hg hgid,
      hnow.atPath v hv g hlatest fun hreject => hid.trans (hgid hreject), hid]

/-- Quiet inserts of records that a library follows leave it as it was. -/
theorem Consistent.insertEach_eq_self (h : start.Consistent)
    (hfollows : start.Follows policy found) (hcoherent : Coherent found)
    (hquiet : start.Quiet policy found) : start.insertEach policy found = start := by
  have htracks := h.tracks_insertEach hfollows hcoherent (List.Subset.refl found) hquiet
  have hnow := h.follows_insertEach policy found
  have hkept (r : Wallpaper) (hr : r ∈ start.wallpapers) :
      r ∈ (start.insertEach policy found).wallpapers := by
    obtain ⟨v, hv, hid, hpath, rfl | ⟨f, hf, htouches⟩⟩ := htracks.kept r hr
    · exact hv
    · rw [← eq_of_touches hfollows hnow hcoherent hr hv hid hpath hf htouches]
      exact hv
  refine eq_of_mem_iff (h.insertEach policy found) h (fun v => ⟨fun hv => ?_, hkept v⟩) htracks.tags
  obtain ⟨r, hr, hid⟩ := htracks.known v hv
  rw [← eq_of_id_eq (h.insertEach policy found).idsDistinct (hkept r hr) hv hid]
  exact hr

end Again

end WallpaperRotation.Library
