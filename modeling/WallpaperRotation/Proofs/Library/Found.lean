/-
# The records that a scan reads

A scan reads its records from files, each under a folder of the library.  So records of one path
tell the same of the file, its digest included, but for the folder, and no purge of the same
folders drops them.
-/
import WallpaperRotation.Library.Scan
import WallpaperRotation.Proofs.Disk.Spelling
import WallpaperRotation.Proofs.Library.Removal
import WallpaperRotation.Result

namespace WallpaperRotation

/-! ## Files -/

/-- The record of a file has the file's path and digest. -/
theorem Wallpaper.of_ofFile_eq_ok {disk : Disk} {path folder : FilePath} {w : Wallpaper}
    (h : Wallpaper.ofFile disk path folder = .ok w) :
    w.path = path ∧ w.folder = folder ∧ ∃ place bytes modified,
      disk.entry true path = .ok (place, .file bytes modified) ∧ w.id = Blake3.digest bytes := by
  unfold ofFile contentId Disk.read at h
  cases hentry : disk.entry true path with
  | error reason =>
    rw [hentry] at h
    cases reason <;> cases hsize : Image.size? disk path <;> rw [hsize] at h <;> cases h
  | ok found =>
    obtain ⟨place, node⟩ := found
    rw [hentry] at h
    cases hsize : Image.size? disk path with
    | none =>
      rw [hsize] at h
      cases h
    | some size =>
      rw [hsize] at h
      cases node with
      | folder listable => cases h
      | link text => cases h
      | file bytes modified =>
        obtain rfl := Except.ok.inj h
        exact ⟨rfl, rfl, place, bytes, modified, rfl, rfl⟩

/-- A file that is there is an entry with bytes and an age. -/
theorem Disk.isFile_iff {disk : Disk} {path : FilePath} :
    disk.isFile path = true ↔
      ∃ place bytes modified, disk.entry true path = .ok (place, .file bytes modified) := by
  unfold isFile
  constructor
  · intro h
    split at h
    · rename_i place bytes modified hentry
      exact ⟨place, bytes, modified, hentry⟩
    · cases h
  · rintro ⟨place, bytes, modified, hentry⟩
    rw [hentry]

/-- Under each spelling of its path a file makes the same record, but for the path as written and
the folder. -/
theorem Wallpaper.ofFile_of_same {disk : Disk} {path other folder : FilePath} {w : Wallpaper}
    (hread : Wallpaper.ofFile disk path folder = .ok w) (hsame : path.same other = true)
    (hfile : disk.isFile other = true) (otherFolder : FilePath) :
    Wallpaper.ofFile disk other otherFolder =
      .ok { w with path := other, folder := otherFolder } := by
  obtain ⟨-, -, place, bytes, modified, hentry, -⟩ := Wallpaper.of_ofFile_eq_ok hread
  obtain ⟨place', bytes', modified', hentry'⟩ := Disk.isFile_iff.1 hfile
  obtain ⟨rfl, hnode⟩ := Disk.entry_eq_of_same hsame hentry hentry'
  have hboth : disk.entry true other = disk.entry true path := by
    rw [hentry, hentry', hnode]
  have hsize : Image.size? disk other = Image.size? disk path := by
    unfold Image.size? Disk.read
    rw [hboth, FilePath.extension?_eq_of_same hsame]
  unfold ofFile contentId Disk.read Disk.modified? at hread ⊢
  rw [hsize, hboth, ← FilePath.fileName?_eq_of_same hsame]
  rw [hentry] at hread ⊢
  cases h : Image.size? disk path with
  | none =>
    rw [h] at hread
    cases hread
  | some size =>
    rw [h] at hread
    obtain rfl := Except.ok.inj hread
    rfl

/-! ## Folders -/

/-- What a search of folders finds are image files. -/
theorem Disk.isImageFile_of_mem_imagesUnder {disk : Disk} {depth : Nat} {within : List Place}
    {folder path : FilePath} (h : path ∈ disk.imagesUnder depth within folder) :
    disk.isImageFile path = true := by
  induction depth generalizing within folder with
  | zero => cases h
  | succ depth ih =>
    unfold imagesUnder at h
    split at h
    · cases h
    · obtain ⟨name, -, hpath⟩ := List.mem_flatMap.1 h
      dsimp only at hpath
      split at hpath
      · exact ih hpath
      · split at hpath
        · rename_i himage
          rw [List.mem_singleton.1 hpath]
          exact himage
        · cases hpath

/-- What is found under a folder are files, and the folder is there. -/
theorem Disk.of_mem_foundIn {disk : Disk} {recursive : Bool} {folder : FilePath}
    {files : List FoundFile} (h : disk.foundIn recursive folder = .ok files) {file : FoundFile}
    (hfile : file ∈ files) :
    file.folder = folder ∧ disk.isFolder folder = true ∧ disk.isFile file.path = true := by
  unfold foundIn at h
  split at h
  · rename_i hfolder
    cases himages : disk.findImages recursive folder with
    | error reason =>
      rw [himages] at h
      cases h
    | ok paths =>
      rw [himages] at h
      obtain rfl := Except.ok.inj h
      obtain ⟨path, hpath, rfl⟩ := List.mem_map.1 hfile
      have himage : disk.isImageFile path = true := by
        unfold findImages at himages
        split at himages
        · split at himages
          · obtain rfl := Except.ok.inj himages
            exact Disk.isImageFile_of_mem_imagesUnder hpath
          · obtain rfl := Except.ok.inj himages
            cases hpath
        · unfold imagesIn at himages
          cases hnames : disk.list folder with
          | error reason =>
            rw [hnames] at himages
            cases himages
          | ok names =>
            rw [hnames] at himages
            obtain rfl := Except.ok.inj himages
            exact (List.mem_filter.1 hpath).2
      unfold isImageFile at himage
      exact ⟨rfl, hfolder, (Bool.and_eq_true_iff.1 himage).1⟩
  · obtain rfl := Except.ok.inj h
    cases hfile

/-- The files under some folders are those under the first one and those under the others. -/
theorem Disk.foundInAll_cons_eq_ok {disk : Disk} {recursive : Bool} {folder : FilePath}
    {folders : List FilePath} {files : List FoundFile}
    (h : disk.foundInAll recursive (folder :: folders) = .ok files) :
    ∃ first others, disk.foundIn recursive folder = .ok first ∧
      disk.foundInAll recursive folders = .ok others ∧ files = first ++ others := by
  unfold foundInAll at h
  cases hfirst : disk.foundIn recursive folder with
  | error reason =>
    rw [hfirst] at h
    cases h
  | ok first =>
    cases hothers : disk.foundInAll recursive folders with
    | error failure =>
      rw [hfirst, hothers] at h
      cases h
    | ok others =>
      rw [hfirst, hothers] at h
      exact ⟨first, others, rfl, rfl, (Except.ok.inj h).symm⟩

/-- A file among those found under some folders is found under one of them. -/
theorem Disk.mem_foundInAll_iff {disk : Disk} {recursive : Bool} {folders : List FilePath}
    {files : List FoundFile} (h : disk.foundInAll recursive folders = .ok files)
    {file : FoundFile} :
    file ∈ files ↔ ∃ folder ∈ folders, ∃ found, disk.foundIn recursive folder = .ok found ∧
      file ∈ found := by
  induction folders generalizing files with
  | nil =>
    obtain rfl := Except.ok.inj h
    simp
  | cons folder folders ih =>
    obtain ⟨first, others, hfirst, hothers, rfl⟩ := Disk.foundInAll_cons_eq_ok h
    rw [List.mem_append, ih hothers]
    constructor
    · rintro (hfile | ⟨other, hother, found, hfound, hfile⟩)
      · exact ⟨folder, List.mem_cons_self, first, hfirst, hfile⟩
      · exact ⟨other, List.mem_cons_of_mem _ hother, found, hfound, hfile⟩
    · rintro ⟨other, hother, found, hfound, hfile⟩
      rcases List.mem_cons.1 hother with rfl | hother
      · obtain rfl := Except.ok.inj (hfirst.symm.trans hfound)
        exact Or.inl hfile
      · exact Or.inr ⟨other, hother, found, hfound, hfile⟩

/-- Files are found under folders that are there. -/
theorem Disk.folder_of_mem_found {disk : Disk} {recursive : Bool} {folders : List FilePath}
    {files : List FoundFile} (h : disk.foundInAll recursive folders = .ok files)
    {file : FoundFile} (hfile : file ∈ files) :
    file.folder ∈ folders ∧ disk.isFolder file.folder = true := by
  obtain ⟨folder, hfolder, found, hfound, hfile⟩ := (Disk.mem_foundInAll_iff h).1 hfile
  obtain ⟨hunder, hthere, -⟩ := Disk.of_mem_foundIn hfound hfile
  rw [hunder]
  exact ⟨hfolder, hthere⟩

/-! ## Records -/

/-- A record of some files is read from one of them. -/
theorem Disk.mem_records_iff {disk : Disk} {files : List FoundFile} {w : Wallpaper} :
    w ∈ disk.records files ↔
      ∃ file ∈ files, Wallpaper.ofFile disk file.path file.folder = .ok w := by
  unfold records
  rw [List.mem_filterMap]
  exact exists_congr fun file => and_congr_right fun _ => toOption_eq_some_iff

/-- The records of the files that a scan finds, in the order in which it puts them in. -/
def Disk.recordsFound (disk : Disk) (recursive : Bool) (folders : List FilePath) :
    List Wallpaper :=
  match disk.foundInAll recursive folders with
  | .ok files => Library.scanOrder (disk.records files)
  | .error _ => []

section Found

variable {disk : Disk} {recursive : Bool} {folders : List FilePath}

/-- A scan of folders that can be listed reads the records of the files that it finds. -/
theorem Disk.recordsFound_eq_scanOrder {files : List FoundFile}
    (hfound : disk.foundInAll recursive folders = .ok files) :
    disk.recordsFound recursive folders = Library.scanOrder (disk.records files) := by
  rw [recordsFound, hfound]

/-- Records that are in order already are put in in their order. -/
theorem Disk.recordsFound_eq {files : List FoundFile} {records : List Wallpaper}
    (hfound : disk.foundInAll recursive folders = .ok files)
    (hread : disk.records files = records)
    (hordered : records.Pairwise fun a b => a.path.le b.path = true) :
    disk.recordsFound recursive folders = records := by
  rw [recordsFound_eq_scanOrder hfound, hread, Library.scanOrder]
  exact List.mergeSort_of_pairwise hordered

/-- A record that a scan reads is what reading its file gives. -/
theorem Disk.ofFile_of_mem_recordsFound {w : Wallpaper}
    (h : w ∈ disk.recordsFound recursive folders) :
    Wallpaper.ofFile disk w.path w.folder = .ok w ∧ w.folder ∈ folders ∧
      disk.isFolder w.folder = true := by
  unfold recordsFound at h
  cases hfound : disk.foundInAll recursive folders with
  | error failure =>
    rw [hfound] at h
    cases h
  | ok files =>
    rw [hfound] at h
    obtain ⟨file, hfile, hread⟩ := Disk.mem_records_iff.1 (List.mem_mergeSort.1 h)
    obtain ⟨hpath, hfolder, -⟩ := Wallpaper.of_ofFile_eq_ok hread
    rw [hpath, hfolder]
    exact ⟨hread, Disk.folder_of_mem_found hfound hfile⟩

/-- A record that a scan reads is that of a file under a folder that is there. -/
theorem Disk.of_mem_recordsFound {w : Wallpaper} (h : w ∈ disk.recordsFound recursive folders) :
    w.folder ∈ folders ∧ disk.isFolder w.folder = true ∧ ∃ place bytes modified,
      disk.entry true w.path = .ok (place, .file bytes modified) ∧ w.id = Blake3.digest bytes := by
  obtain ⟨hread, hmem, hthere⟩ := Disk.ofFile_of_mem_recordsFound h
  obtain ⟨-, -, hcontents⟩ := Wallpaper.of_ofFile_eq_ok hread
  exact ⟨hmem, hthere, hcontents⟩

/-- The file of a record that a scan reads is there. -/
theorem Disk.isFile_of_mem_recordsFound {w : Wallpaper}
    (h : w ∈ disk.recordsFound recursive folders) : disk.isFile w.path = true := by
  obtain ⟨-, -, place, bytes, modified, hentry, -⟩ := Disk.of_mem_recordsFound h
  exact Disk.isFile_iff.2 ⟨place, bytes, modified, hentry⟩

/-- Records of one path that a scan reads tell the same of the file. -/
theorem Disk.eq_of_mem_recordsFound {v w : Wallpaper}
    (hv : v ∈ disk.recordsFound recursive folders) (hw : w ∈ disk.recordsFound recursive folders)
    (hpath : v.path.same w.path = true) : v = { w with path := v.path, folder := v.folder } := by
  have hsame : w.path.same v.path = true := by rw [FilePath.same_comm]; exact hpath
  have hread := Wallpaper.ofFile_of_same (Disk.ofFile_of_mem_recordsFound hw).1 hsame
    (Disk.isFile_of_mem_recordsFound hv) v.folder
  rw [(Disk.ofFile_of_mem_recordsFound hv).1] at hread
  exact Except.ok.inj hread

/-- Records of one path that a scan reads have one identifier. -/
theorem Disk.id_eq_of_mem_recordsFound {v w : Wallpaper}
    (hv : v ∈ disk.recordsFound recursive folders) (hw : w ∈ disk.recordsFound recursive folders)
    (hpath : v.path.same w.path = true) : v.id = w.id := by
  rw [Disk.eq_of_mem_recordsFound hv hw hpath]

/-- A record that a scan reads is not lost, under whatever identifier it is kept. -/
theorem Library.isLost_of_mem_recordsFound {w : Wallpaper}
    (h : w ∈ disk.recordsFound recursive folders) (id : String) :
    Library.isLost disk folders { w with id := id } = false := by
  obtain ⟨hmem, hthere, -⟩ := Disk.of_mem_recordsFound h
  have hbacked : (folders.filter disk.isFolder).any w.folder.same = true :=
    List.any_eq_true.2 ⟨w.folder, List.mem_filter.2 ⟨hmem, hthere⟩, FilePath.same_refl _⟩
  simp only [Library.isLost, Wallpaper.isBacked, hbacked, Disk.isFile_of_mem_recordsFound h, hthere]
  rfl

end Found

end WallpaperRotation
