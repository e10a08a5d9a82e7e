/-
# Checking the records

A check drops the records whose names are not those of images, and then those that have no file, or
no folder among the folders of the library.  It leaves exactly the sound records, in their order, and
of the tags what they hold of these.  The two parts may as well come the other way round, and a
second check finds nothing to drop.
-/
import WallpaperRotation.Proofs.Disk.Respelling
import WallpaperRotation.Proofs.Library.Restriction
import WallpaperRotation.Proofs.Library.Standing
import WallpaperRotation.Rotation.Rotator

namespace WallpaperRotation

namespace Library

/-! ## Sound records -/

/-- The record is that of an image by its name, its file is there, and its folder is there and is
one of the folders that are there. -/
def isSound (disk : Disk) (folders : List FilePath) (w : Wallpaper) : Bool :=
  (FilePath.mk w.name).isImage && disk.isFile w.path && disk.isFolder w.folder &&
    folders.any fun folder => disk.isFolder folder && w.folder.same folder

/-- A sound record is one that is neither misnamed nor lost. -/
theorem isSound_eq (disk : Disk) (folders : List FilePath) (w : Wallpaper) :
    isSound disk folders w = (!isMisnamed w && !isLost disk folders w) := by
  rw [Bool.eq_iff_iff]
  simp only [isSound, isMisnamed, Bool.not_not, Bool.and_eq_true, Bool.not_eq_true',
    isLost_eq_false_iff, List.any_eq_true, and_assoc]

/-- The folders that make a record sound are those that are the same and short enough for a path. -/
theorem isSound_eq_short (disk : Disk) (folders : List FilePath) (w : Wallpaper) :
    isSound disk folders w =
      ((FilePath.mk w.name).isImage && disk.isFile w.path && disk.isFolder w.folder &&
        folders.any fun folder =>
          w.folder.same folder && decide (folder.text.utf8ByteSize < pathLimit)) := by
  unfold isSound
  by_cases hfolder : disk.isFolder w.folder = true
  · congr 2
    funext folder
    by_cases hsame : w.folder.same folder = true
    · rw [hsame, Bool.and_true, Bool.true_and, Bool.eq_iff_iff, decide_eq_true_eq]
      exact Disk.isFolder_iff_of_same hsame hfolder
    · rw [Bool.not_eq_true] at hsame
      rw [hsame, Bool.and_false, Bool.false_and]
  · rw [Bool.not_eq_true] at hfolder
    rw [hfolder, Bool.and_false, Bool.false_and, Bool.false_and]

/-! ## Checks -/

/-- The number of records that a check drops, first those that are no images and then those without
a file, and the library without them. -/
def check (library : Library) (disk : Disk) (folders : List FilePath) : Nat × Library :=
  let (unsuited, library) := library.sanitize
  let (missing, library) := library.purge disk folders
  (unsuited.length + missing.length, library)

/-- The same, but first the records without a file are dropped. -/
def checkFilesFirst (library : Library) (disk : Disk) (folders : List FilePath) : Nat × Library :=
  let (missing, library) := library.purge disk folders
  let (unsuited, library) := library.sanitize
  (missing.length + unsuited.length, library)

/-- What is dropped in two goes is what meets one of the two conditions. -/
theorem length_filter_or (meets also : Wallpaper → Bool) (records : List Wallpaper) :
    (records.filter meets).length + ((records.filter fun w => !meets w).filter also).length =
      (records.filter fun w => meets w || also w).length := by
  induction records with
  | nil => rfl
  | cons w records ih =>
    cases hmeets : meets w with
    | true => simp [hmeets, ← ih]; omega
    | false =>
      cases halso : also w with
      | true => simp [hmeets, halso, ← ih]; omega
      | false => simp [hmeets, halso, ← ih]

section Checks

variable {library : Library}

/-- Dropping the records that meet one condition and then those that meet another one leaves those
that meet neither. -/
theorem Consistent.removeAll_twice (h : library.Consistent) (meets also : Wallpaper → Bool) :
    (library.wallpapers.filter meets).length +
        ((library.withoutWhere meets).wallpapers.filter also).length =
      (library.wallpapers.filter fun w => meets w || also w).length ∧
    (library.withoutWhere meets).withoutWhere also =
      library.only fun w => !meets w && !also w := by
  have hfirst : (library.withoutWhere meets).Consistent := h.without _
  constructor
  · rw [h.wallpapers_withoutWhere]
    exact length_filter_or meets also library.wallpapers
  · rw [hfirst.withoutWhere_eq_only, h.withoutWhere_eq_only, only_only]

/-- A check drops the records that are not sound. -/
theorem Consistent.check_eq (h : library.Consistent) (disk : Disk) (folders : List FilePath) :
    library.check disk folders =
      ((library.wallpapers.filter fun w => !isSound disk folders w).length,
        library.only (isSound disk folders)) := by
  have hfirst : (library.withoutWhere isMisnamed).Consistent := h.without _
  obtain ⟨hcount, hrest⟩ := h.removeAll_twice isMisnamed (isLost disk folders)
  have hsound : isSound disk folders = fun w => !isMisnamed w && !isLost disk folders w :=
    funext (isSound_eq disk folders)
  simp only [check, h.sanitize_eq, hfirst.purge_eq, hcount, hrest, hsound, Bool.not_and,
    Bool.not_not]

/-- A check that looks for the files first drops the records that are not sound. -/
theorem Consistent.checkFilesFirst_eq (h : library.Consistent) (disk : Disk)
    (folders : List FilePath) :
    library.checkFilesFirst disk folders =
      ((library.wallpapers.filter fun w => !isSound disk folders w).length,
        library.only (isSound disk folders)) := by
  have hfirst : (library.withoutWhere (isLost disk folders)).Consistent := h.without _
  obtain ⟨hcount, hrest⟩ := h.removeAll_twice (isLost disk folders) isMisnamed
  have hsound : isSound disk folders = fun w => !isLost disk folders w && !isMisnamed w :=
    funext fun w => (isSound_eq disk folders w).trans (Bool.and_comm _ _)
  simp only [checkFilesFirst, h.purge_eq, hfirst.sanitize_eq, hcount, hrest, hsound, Bool.not_and,
    Bool.not_not]

/-- A second check drops nothing. -/
theorem Consistent.check_check (h : library.Consistent) (disk : Disk) (folders : List FilePath) :
    (library.check disk folders).2.check disk folders = (0, (library.check disk folders).2) := by
  rw [h.check_eq, (h.only _).check_eq, only_self]
  refine Prod.ext ?_ rfl
  rw [List.length_eq_zero_iff, List.filter_eq_nil_iff]
  intro w hw
  rw [(List.mem_filter.1 hw).2]
  exact Bool.false_ne_true

end Checks

/-- Let the records of a library that operations have made be checked.  That leaves the sound ones,
in their order, and what the tags hold of these, and tells the number of the others; so it does when
the files are looked for first.  A second check drops nothing.  The check before a rotation is this
one.  A record is sound when its name is that of an image, its file is there, and its folder is there
and is one of the folders, under whatever spelling that is short enough for a path. -/
theorem check_run_empty (operations : List Operation) (disk : Disk) (folders : List FilePath) :
    (empty.run operations).check disk folders =
      (((empty.run operations).wallpapers.filter fun w => !isSound disk folders w).length,
        (empty.run operations).only (isSound disk folders)) ∧
    (empty.run operations).checkFilesFirst disk folders =
      (empty.run operations).check disk folders ∧
    ((empty.run operations).check disk folders).2.check disk folders =
      (0, ((empty.run operations).check disk folders).2) ∧
    (∀ (rotator : Rotator) (plan : Plan),
      rotator.validate plan = ((rotator.library.check rotator.disk plan.folders).1,
        { rotator with library := (rotator.library.check rotator.disk plan.folders).2 })) ∧
    ∀ w, isSound disk folders w =
      ((FilePath.mk w.name).isImage && disk.isFile w.path && disk.isFolder w.folder &&
        folders.any fun folder =>
          w.folder.same folder && decide (folder.text.utf8ByteSize < pathLimit)) := by
  have h := consistent_empty.run operations
  refine ⟨h.check_eq disk folders, ?_, h.check_check disk folders, fun rotator plan => rfl,
    isSound_eq_short disk folders⟩
  rw [h.checkFilesFirst_eq, h.check_eq]

end Library

end WallpaperRotation
