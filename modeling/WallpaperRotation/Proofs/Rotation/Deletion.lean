/-
# Deleting what a target shows

A deletion ends in one of five ways.  Without a wallpaper to delete nothing happens.  When the
target cannot be cleared, or its file cannot be removed, the deletion fails, and when the file is
gone already it ends well without a record; in these cases it leaves the library, the state and the
disk as clearing the target has left them.  Otherwise the file is removed, and with it go its
record, the places of the record in the tags, and the file as what a target shows.
-/
import WallpaperRotation.Proofs.Library.Restriction
import WallpaperRotation.Proofs.Rotation.Succession
import WallpaperRotation.Rotation.Commands

namespace WallpaperRotation

/-! ## Records of a file -/

namespace Library

variable {library : Library}

/-- The records of a file are the one that is found at its path. -/
theorem Consistent.filter_path_same (h : library.Consistent) {path : FilePath} {w : Wallpaper}
    (hfound : library.byPath? path = some w) :
    library.wallpapers.filter (fun v => v.path.same path) = [w] := by
  obtain ⟨hw, hpath⟩ := of_byPath?_eq_some hfound
  have hsame : ∀ v ∈ library.wallpapers, v.path.same path = decide (v = w) := by
    intro v hv
    rw [Bool.eq_iff_iff, decide_eq_true_eq, ← FilePath.same_congr_right hpath v.path]
    exact ⟨eq_of_path_same h.pathsDistinct hv hw, fun heq => heq ▸ FilePath.same_refl _⟩
  have hnodup : library.wallpapers.Nodup := h.idsDistinct.of_map
  rw [List.filter_congr hsame, List.filter_eq, List.count_eq_one_of_mem hnodup hw]
  rfl

/-- Removing the record of a file restricts the library to the other records. -/
theorem Consistent.removeByPath?_eq (h : library.Consistent) (path : FilePath) :
    library.removeByPath? path =
      (library.byPath? path).map fun w => (w, library.only fun w => !w.path.same path) := by
  unfold removeByPath?
  cases hfound : library.byPath? path with
  | none => rfl
  | some w =>
    rw [Option.bind_some, h.remove?_eq_some (of_byPath?_eq_some hfound).1, Option.map_some,
      ← h.withoutWhere_eq_only, withoutWhere, h.filter_path_same hfound]
    rfl

/-- A library without a record of the file is restricted to its other records already. -/
theorem Consistent.only_of_byPath?_eq_none (h : library.Consistent) {path : FilePath}
    (hnone : library.byPath? path = none) :
    (library.only fun w => !w.path.same path) = library := by
  rw [← h.withoutWhere_eq_only]
  exact h.withoutWhere_eq_self (byPath?_eq_none_iff.1 hnone)

/-- What is no identifier of a consistent library has no tags. -/
theorem Consistent.tagsOf_eq_nil_of_not_mem (h : library.Consistent) {id : String}
    (hid : id ∉ library.ids) : library.tagsOf id = [] :=
  tagsOf_eq_nil fun tag htag hheld => hid (h.tagsLive tag htag id hheld)

/-- Without the record of a file its identifier has no tags, and any other one has the tags that it
had. -/
theorem Consistent.tagsOf_only_path (h : library.Consistent) (path : FilePath) (id : String) :
    (library.only fun w => !w.path.same path).tagsOf id =
      if (library.byPath? path).any (fun w => w.id = id) then [] else library.tagsOf id := by
  have hrest : (library.only fun w => !w.path.same path).Consistent := h.only _
  by_cases hid : id ∈ (library.only fun w => !w.path.same path).ids
  · obtain ⟨v, hv, rfl⟩ := mem_ids.1 hid
    obtain ⟨hrecord, hpath⟩ := List.mem_filter.1 hv
    have hkept : (library.byPath? path).any (fun w => w.id = v.id) = false := by
      cases hfound : library.byPath? path with
      | none => rfl
      | some w =>
        obtain ⟨hw, hsame⟩ := of_byPath?_eq_some hfound
        refine decide_eq_false fun heq => ?_
        rw [← eq_of_id_eq h.idsDistinct hw hrecord heq, hsame] at hpath
        exact Bool.false_ne_true hpath
    rw [tagsOf_only hv, hkept]
    rfl
  · -- An identifier that is not left was that of the record, or none of the library.
    rw [hrest.tagsOf_eq_nil_of_not_mem hid]
    split
    · rfl
    · rename_i hother
      refine (h.tagsOf_eq_nil_of_not_mem fun hbefore => ?_).symm
      obtain ⟨v, hv, rfl⟩ := mem_ids.1 hbefore
      by_cases hpath : v.path.same path = true
      · rw [(byPath?_eq_some_iff h.pathsDistinct).2 ⟨hv, hpath⟩] at hother
        exact hother (decide_eq_true rfl)
      · exact hid (id_mem_ids (List.mem_filter.2 ⟨hv, by simpa using hpath⟩))

end Library

/-! ## Dropping a file -/

namespace Rotator

variable {rotator : Rotator} {path : FilePath}

/-- A target that showed the file shows nothing, and another one what it showed. -/
theorem current_forget (path : FilePath) (state : TargetState) :
    (forget path state).current =
      if state.current.any path.same then none else state.current := by
  unfold forget
  split <;> rfl

/-- A file was dropped between two rotators.  Its record, if it had one, is gone with its places in
the tags, and the other records and tags are left in their order.  No target shows the file.  All
else that a rotation goes by is as it was.  -/
structure Drops (before : Rotator) (path : FilePath) (record : Option Wallpaper) (after : Rotator) :
    Prop where
  record_iff : ∀ w, record = some w ↔ w ∈ before.library.wallpapers ∧ w.path.same path = true
  library_eq : after.library = before.library.only fun w => !w.path.same path
  tagsOf_eq : ∀ id, after.library.tagsOf id =
    if record.any (fun w => w.id = id) then [] else before.library.tagsOf id
  current_eq : ∀ target, (after.state.target target).current =
    if (before.state.target target).current.any path.same then none
    else (before.state.target target).current
  cursor_eq : ∀ target, (after.state.target target).cursor = (before.state.target target).cursor
  ledger_eq : ∀ target, (after.state.target target).ledger = (before.state.target target).ledger
  shared_eq : after.state.library = before.state.library
  words_eq : after.words = before.words

/-- The rotator without the record of a file, whose targets do not show the file. -/
def withoutFile (rotator : Rotator) (path : FilePath) : Rotator :=
  { rotator with
    library := rotator.library.only fun w => !w.path.same path
    state := { rotator.state with
      home := forget path rotator.state.home
      lock := forget path rotator.state.lock } }

/-- Dropping a file gives its record and the rotator without it. -/
theorem dropFile_eq (rotator : Rotator) (h : rotator.library.Consistent) (path : FilePath) :
    rotator.dropFile path = (rotator.library.byPath? path, rotator.withoutFile path) := by
  unfold dropFile withoutFile
  rw [h.removeByPath?_eq]
  cases hfound : rotator.library.byPath? path with
  | none =>
    rw [h.only_of_byPath?_eq_none hfound]
    rfl
  | some w => rfl

/-- The rotator without a file, whatever happened to the disk meanwhile, has dropped the file. -/
theorem drops_withoutFile (h : rotator.library.Consistent) (path : FilePath) (disk : Disk)
    (events : List Event) :
    rotator.Drops path (rotator.library.byPath? path)
      ({ rotator with disk := disk, events := events }.withoutFile path) where
  record_iff _ := Library.byPath?_eq_some_iff h.pathsDistinct
  library_eq := rfl
  tagsOf_eq := h.tagsOf_only_path path
  current_eq target := by cases target <;> exact current_forget path _
  cursor_eq target := by cases target <;> exact cursor_forget path _
  ledger_eq target := by cases target <;> exact RotationState.ledger_forget path _
  shared_eq := rfl
  words_eq := rfl

/-! ## Deletions -/

/-- What a deletion of the file at a path comes to, for a target that shows it, by what clearing the
target has come to. -/
structure Deletes (before : Rotator) (cleared : OnDisk Unit) (path : FilePath)
    (result : Except Failure (Option Deleted)) (after : Rotator) : Prop where
  /-- It fails when the target could not be cleared, or when the file is there and cannot be
  removed. -/
  failed_iff : ∀ failure, result = .error failure ↔
    cleared.1 = .error failure ∨
      cleared.1 = .ok () ∧ cleared.2.holds path = true ∧
        ∃ reason, cleared.2.removeFile path = .error reason ∧ failure = .notDeleted path reason
  /-- The file was gone already. -/
  missing_iff : result = .ok (some ⟨path, false, none⟩) ↔
    cleared.1 = .ok () ∧ cleared.2.holds path = false
  /-- The file was removed. -/
  removed_iff : (∃ record, result = .ok (some ⟨path, true, record⟩)) ↔
    cleared.1 = .ok () ∧ cleared.2.holds path = true ∧
      ∃ disk, cleared.2.removeFile path = .ok disk
  /-- Unless the file was removed, all is as clearing the target has left it. -/
  kept : (∀ record, result ≠ .ok (some ⟨path, true, record⟩)) →
    after.library = before.library ∧ after.state = before.state ∧ after.words = before.words ∧
      after.disk = cleared.2
  /-- A file that was removed is dropped. -/
  dropped : ∀ record, result = .ok (some ⟨path, true, record⟩) →
    cleared.2.removeFile path = .ok after.disk ∧ before.Drops path record after

/-- A target that could not be cleared makes the deletion fail. -/
theorem deletes_not_cleared (rotator : Rotator) (path : FilePath) (failure : Failure)
    (disk : Disk) :
    rotator.Deletes (.error failure, disk) path (.error failure) { rotator with disk := disk } := by
  constructor <;> simp

/-- A file that is gone is not deleted. -/
theorem deletes_missing {disk : Disk} (hholds : disk.holds path = false) (rotator : Rotator)
    (event : Event) :
    rotator.Deletes (.ok (), disk) path (.ok (some ⟨path, false, none⟩))
      ({ rotator with disk := disk }.log event) := by
  constructor <;> simp [hholds, log]

/-- A file that cannot be removed makes the deletion fail. -/
theorem deletes_not_removed {disk : Disk} {reason : DiskFault} (hholds : disk.holds path = true)
    (hremove : disk.removeFile path = .error reason) (rotator : Rotator) (event : Event) :
    rotator.Deletes (.ok (), disk) path (.error (.notDeleted path reason))
      ({ rotator with disk := disk }.log event) := by
  constructor <;> simp [hholds, hremove, log, eq_comm]

/-- A file that was removed is dropped. -/
theorem deletes_removed (h : rotator.library.Consistent) {disk left : Disk}
    (hholds : disk.holds path = true) (hremove : disk.removeFile path = .ok left)
    (events : List Event) :
    rotator.Deletes (.ok (), disk) path
      (.ok (some ⟨path, true, rotator.library.byPath? path⟩))
      ({ rotator with disk := left, events := events }.withoutFile path) where
  failed_iff := by simp [hholds, hremove]
  missing_iff := by simp [hholds]
  removed_iff := by simp [hholds, hremove]
  kept hnot := absurd rfl (hnot _)
  dropped record hrecord := by
    cases hrecord
    exact ⟨hremove, drops_withoutFile h path left events⟩

/-- A deletion comes to exactly one thing, for all libraries that operations make from the empty
one, states, targets, disks and appliers.  For a target that shows nothing it does nothing, and
otherwise what it does goes by what clearing the target has come to.  -/
theorem deleteCurrent_exact {operations : List Operation}
    (hlibrary : rotator.library = Library.empty.run operations) (target : Target)
    (applier : Applier) :
    ((rotator.state.target target).current = none →
      rotator.deleteCurrent target applier = (.ok none, rotator)) ∧
    ∀ path, (rotator.state.target target).current = some path →
      rotator.Deletes (applier.clear target rotator.disk) path
        (rotator.deleteCurrent target applier).1 (rotator.deleteCurrent target applier).2 := by
  have h := Library.consistent_of_eq_run hlibrary
  refine ⟨fun hnone => by rw [deleteCurrent, hnone], fun path hcurrent => ?_⟩
  rcases hclear : applier.clear target rotator.disk with ⟨failure | _, disk⟩
  · simp only [deleteCurrent, hcurrent, hclear]
    exact rotator.deletes_not_cleared path failure disk
  · cases hholds : disk.holds path with
    | false =>
      simp only [deleteCurrent, hcurrent, hclear, hholds, Bool.not_false, if_true]
      exact deletes_missing hholds rotator _
    | true =>
      cases hremove : disk.removeFile path with
      | error reason =>
        simp only [deleteCurrent, hcurrent, hclear, hholds, hremove, Bool.not_true,
          Bool.false_eq_true, if_false]
        exact deletes_not_removed hholds hremove rotator _
      | ok left =>
        have hdrop := dropFile_eq
          { rotator with disk := left, events := rotator.events ++ [Event.cleared target] } h path
        simp only [deleteCurrent, hcurrent, hclear, hholds, hremove, Bool.not_true,
          Bool.false_eq_true, if_false, log, hdrop]
        exact deletes_removed h hholds hremove _

/-! ### One image on both targets -/

/-- A rotator whose targets show an image, the lock screen under another spelling of its path. -/
def shownRotator : Rotator :=
  { imageRotator with
    state := ⟨⟨4, Ledger.empty, some ⟨"walls/a.png"⟩⟩, ⟨2, Ledger.empty, some ⟨"walls//a.png"⟩⟩,
      Ledger.empty⟩ }

/-- An image that is deleted from one target is gone from the library and from both targets, which
keep their positions. -/
theorem deleteCurrent_exact_shown :
    ∃ after, shownRotator.deleteCurrent .home idleApplier =
        (.ok (some ⟨⟨"walls/a.png"⟩, true, some (Library.imageRecord Library.imageId "a.png")⟩),
          after) ∧
      after.library.wallpapers = [] ∧
      (∀ target, (after.state.target target).current = none) ∧
      (after.state.target .home).cursor = 4 ∧ (after.state.target .lock).cursor = 2 := by
  obtain ⟨operations, hlibrary⟩ := reachable_imageRotator.library
  have hdeletes := (deleteCurrent_exact (show shownRotator.library = _ from hlibrary) .home
    idleApplier).2 _ rfl
  have hresult : (shownRotator.deleteCurrent .home idleApplier).1 =
      .ok (some ⟨⟨"walls/a.png"⟩, true, some (Library.imageRecord Library.imageId "a.png")⟩) := by
    decide +kernel
  rcases hdelete : shownRotator.deleteCurrent .home idleApplier with ⟨result, after⟩
  rw [hdelete] at hdeletes hresult
  obtain rfl : result = _ := hresult
  obtain ⟨-, hdrops⟩ := hdeletes.dropped _ rfl
  refine ⟨after, rfl, ?_, fun target => ?_, hdrops.cursor_eq .home, hdrops.cursor_eq .lock⟩
  · rw [hdrops.library_eq]
    decide +kernel
  · rw [hdrops.current_eq]
    cases target <;> decide +kernel

/-- A command for clearing a target that overwrites the file and then fails. -/
def spoilingSetting : ApplySetting :=
  ⟨[], [], ["sh", "-c", "echo nothing > walls/a.png; exit 1"]⟩

/-- A deletion that fails does not always leave the file as it was: clearing the target may have
changed it. -/
theorem not_read_deleteCurrent :
    ¬∀ (operations : List Operation) (rotator : Rotator) (target : Target) (applier : Applier)
        (path : FilePath) (failure : Failure) (after : Rotator),
      rotator.library = Library.empty.run operations →
      (rotator.state.target target).current = some path →
      rotator.deleteCurrent target applier = (.error failure, after) →
      after.library = rotator.library ∧ after.state = rotator.state ∧
        after.disk.read path = rotator.disk.read path := by
  intro hkeeps
  obtain ⟨operations, hlibrary⟩ := reachable_imageRotator.library
  have hfails : (shownRotator.deleteCurrent .home spoilingSetting.applier).1.isOk = false := by
    decide +kernel
  have htext : (shownRotator.deleteCurrent .home spoilingSetting.applier).2.disk.readText
      ⟨"walls/a.png"⟩ = .ok "nothing\n" := by decide +kernel
  rcases hdelete : shownRotator.deleteCurrent .home spoilingSetting.applier with
    ⟨failure | deleted, after⟩
  · obtain ⟨-, -, hread⟩ := hkeeps operations shownRotator .home spoilingSetting.applier _ failure
      after hlibrary rfl hdelete
    rw [hdelete, Disk.readText, hread] at htext
    exact absurd htext (by decide +kernel)
  · rw [hdelete] at hfails
    cases hfails

end Rotator

end WallpaperRotation
