/-
# Folders listed in another order

A file system lists the files of a folder in an order of its own.  A scan puts the records of all
files in the order of their paths, and the records of one path, which come from different folders
only, stay in the order of these folders.  So it does not matter in which order each folder lists its
files.
-/
import WallpaperRotation.Proofs.Disk.Reordered
import WallpaperRotation.Proofs.Library.LastFolder
import WallpaperRotation.Proofs.Library.Settled

namespace WallpaperRotation

/-! ## Files under one folder -/

section Folder

variable {disk : Disk} {recursive : Bool} {folder : FilePath}

/-- A search of folders goes down by names. -/
theorem Disk.WellFormed.exists_descendant_of_mem_imagesUnder (h : disk.WellFormed) {depth : Nat}
    {within : List Place} {path : FilePath} (hpath : path ∈ disk.imagesUnder depth within folder) :
    ∃ names, (∀ name ∈ names, FilePath.IsName name) ∧ path = folder.descendant names := by
  induction depth generalizing within folder with
  | zero => cases hpath
  | succ depth ih =>
    unfold imagesUnder at hpath
    split at hpath
    · cases hpath
    · rename_i names hlist
      obtain ⟨name, hname, hmem⟩ := List.mem_flatMap.1 hpath
      have hisName := h.isName_of_mem_list hlist hname
      dsimp only at hmem
      split at hmem
      · obtain ⟨below, hbelow, rfl⟩ := ih hmem
        exact ⟨name :: below, List.forall_mem_cons.2 ⟨hisName, hbelow⟩, rfl⟩
      · split at hmem
        · rw [List.mem_singleton.1 hmem]
          exact ⟨[name], List.forall_mem_singleton.2 hisName, rfl⟩
        · cases hmem

/-- What a search of folders finds at a path: the image files below a folder that it goes down to,
or the path itself. -/
def Disk.imagesAt (disk : Disk) (depth : Nat) (within : List Place) (path : FilePath) :
    List FilePath :=
  match disk.subfolder? within path with
  | some place => disk.imagesUnder depth (place :: within) path
  | none => if disk.isImageFile path then [path] else []

/-- A search of a folder goes to each of the names that are listed. -/
theorem Disk.imagesUnder_of_list {names : List String} (hlist : disk.list folder = .ok names)
    (depth : Nat) (within : List Place) :
    disk.imagesUnder (depth + 1) within folder =
      names.flatMap fun name => disk.imagesAt depth within (folder.child name) := by
  rw [imagesUnder, hlist]
  rfl

/-- What is found at a path leads down from it by names. -/
theorem Disk.WellFormed.exists_descendant_of_mem_imagesAt (h : disk.WellFormed) {depth : Nat}
    {within : List Place} {top path : FilePath} (hpath : path ∈ disk.imagesAt depth within top) :
    ∃ names, (∀ name ∈ names, FilePath.IsName name) ∧ path = top.descendant names := by
  unfold imagesAt at hpath
  split at hpath
  · exact h.exists_descendant_of_mem_imagesUnder hpath
  · split at hpath
    · exact ⟨[], List.forall_mem_nil _, List.mem_singleton.1 hpath⟩
    · cases hpath

/-- A search of folders comes to each path once. -/
theorem Disk.WellFormed.pairwise_imagesUnder (h : disk.WellFormed) (depth : Nat)
    (within : List Place) (folder : FilePath) :
    (disk.imagesUnder depth within folder).Pairwise fun a b => a.same b = false := by
  induction depth generalizing within folder with
  | zero => exact List.Pairwise.nil
  | succ depth ih =>
    cases hlist : disk.list folder with
    | error fault =>
      rw [imagesUnder, hlist]
      exact List.Pairwise.nil
    | ok names =>
      rw [Disk.imagesUnder_of_list hlist]
      refine List.pairwise_flatMap.2 ⟨fun name hname => ?_, ?_⟩
      · unfold imagesAt
        split
        · exact ih _ _
        · split
          · exact List.pairwise_singleton _ _
          · exact List.Pairwise.nil
      · -- What is found at two names parts at these names, which are distinct.
        refine (h.nodup_of_list hlist).imp_of_mem fun hname hother hne path hpath path' hpath' => ?_
        obtain ⟨below, hbelow, rfl⟩ := h.exists_descendant_of_mem_imagesAt hpath
        obtain ⟨below', hbelow', rfl⟩ := h.exists_descendant_of_mem_imagesAt hpath'
        exact FilePath.same_descendant_child_eq_false
          (List.forall_mem_cons.2 ⟨h.isName_of_mem_list hlist hname, hbelow⟩)
          (List.forall_mem_cons.2 ⟨h.isName_of_mem_list hlist hother, hbelow'⟩) hne

/-- Each path is found once under a folder. -/
theorem Disk.WellFormed.pairwise_foundIn (h : disk.WellFormed) {files : List FoundFile}
    (hfound : disk.foundIn recursive folder = .ok files) :
    files.Pairwise fun a b => a.path.same b.path = false := by
  unfold foundIn at hfound
  split at hfound
  · obtain ⟨paths, himages, rfl⟩ := exists_of_map_ok hfound
    refine List.pairwise_map.2 ?_
    unfold findImages at himages
    split at himages
    · split at himages
      · obtain rfl := Except.ok.inj himages
        exact h.pairwise_imagesUnder _ _ _
      · obtain rfl := Except.ok.inj himages
        exact List.Pairwise.nil
    · obtain ⟨names, hlist, hpaths⟩ := exists_of_bind_ok himages
      obtain rfl := Except.ok.inj hpaths
      refine (List.pairwise_map.2 ?_).filter _
      refine (h.nodup_of_list hlist).imp_of_mem fun {name other} hname hother hne => ?_
      have hpart : ((folder.child name).descendant []).same ((folder.child other).descendant []) =
          false :=
        FilePath.same_descendant_child_eq_false
          (List.forall_mem_singleton.2 (h.isName_of_mem_list hlist hname))
          (List.forall_mem_singleton.2 (h.isName_of_mem_list hlist hother)) hne
      exact hpart
  · obtain rfl := Except.ok.inj hfound
    exact List.Pairwise.nil

/-- Files of one path that are found under one folder are one file. -/
theorem Disk.WellFormed.eq_of_mem_foundIn (h : disk.WellFormed) {files : List FoundFile}
    (hfound : disk.foundIn recursive folder = .ok files) {file other : FoundFile}
    (hfile : file ∈ files) (hother : other ∈ files) (hpath : file.path.same other.path = true) :
    file = other := by
  by_contra hne
  have hsymm : Std.Symm fun a b : FoundFile => a.path.same b.path = false :=
    ⟨fun a b hab => by rw [FilePath.same_comm]; exact hab⟩
  have hfalse : file.path.same other.path = false :=
    (h.pairwise_foundIn hfound).forall hfile hother hne
  rw [hpath] at hfalse
  cases hfalse

end Folder

/-! ## Enumerations -/

/-- The files are those that are found under each of the folders, in any order under each. -/
inductive Disk.Enumerates (disk : Disk) (recursive : Bool) :
    List FilePath → List FoundFile → Prop where
  | nil : Enumerates disk recursive [] []
  | cons {folder : FilePath} {folders : List FilePath} {found files others : List FoundFile}
    (hfound : disk.foundIn recursive folder = .ok found) (hperm : files.Perm found)
    (hothers : Enumerates disk recursive folders others) :
    Enumerates disk recursive (folder :: folders) (files ++ others)

/-- The same elements in another order are the same list when they are all equal. -/
theorem eq_of_perm_of_forall_eq {A : Type} {list other : List A} (hperm : list.Perm other)
    (hall : ∀ a ∈ list, ∀ b ∈ list, a = b) : list = other := by
  have hpairs (some : List A) : some.Pairwise fun _ _ => True :=
    List.pairwise_of_forall fun _ _ => trivial
  refine hperm.eq_of_pairwise (fun a b ha hb _ _ => ?_) (hpairs list) (hpairs other)
  exact hall a ha b (hperm.mem_iff.2 hb)

section Enumerates

variable {disk : Disk} {recursive : Bool} {folders : List FilePath} {files : List FoundFile}

/-- An enumeration tells the files that a scan finds, and those of each path in their order. -/
theorem Disk.Enumerates.exists_foundInAll (h : disk.Enumerates recursive folders files)
    (hdisk : disk.WellFormed) :
    ∃ found, disk.foundInAll recursive folders = .ok found ∧ files.Perm found ∧
      ∀ path, (files.filter fun file => file.path.same path) =
        found.filter fun file => file.path.same path := by
  induction h with
  | nil => exact ⟨[], rfl, List.Perm.refl _, fun path => rfl⟩
  | @cons folder folders found files others hfound hperm hothers ih =>
    obtain ⟨rest, hrest, hothersPerm, hfilter⟩ := ih
    refine ⟨found ++ rest, ?_, hperm.append hothersPerm, fun path => ?_⟩
    · rw [Disk.foundInAll, hfound, hrest]
      rfl
    · rw [List.filter_append, List.filter_append, hfilter]
      congr 1
      -- Files of one path under one folder are one file, so their order does not matter.
      refine eq_of_perm_of_forall_eq (hperm.filter _) fun a ha b hb => ?_
      obtain ⟨ha, hapath⟩ := List.mem_filter.1 ha
      obtain ⟨hb, hbpath⟩ := List.mem_filter.1 hb
      refine hdisk.eq_of_mem_foundIn hfound (hperm.mem_iff.1 ha) (hperm.mem_iff.1 hb) ?_
      rw [FilePath.same_congr_left hapath, FilePath.same_comm]
      exact hbpath

/-- Records of one path are read from the files of that path, in their order. -/
theorem Disk.filter_records (disk : Disk) (files : List FoundFile) (path : FilePath) :
    ((disk.records files).filter fun w => w.path.same path) =
      disk.records (files.filter fun file => file.path.same path) := by
  unfold records
  rw [List.filter_filterMap, List.filterMap_filter]
  congr 1
  funext file
  cases hread : Wallpaper.ofFile disk file.path file.folder with
  | error fault => simp [Except.toOption]
  | ok w =>
    obtain ⟨hpath, -, -⟩ := Wallpaper.of_ofFile_eq_ok hread
    simp only [Except.toOption]
    by_cases hsame : file.path.same path = true <;> simp [Option.filter, hpath, hsame]

end Enumerates

namespace Library

/-- Lists that have the same records of each path have the same records. -/
theorem mem_iff_of_filter_same_eq {records others : List Wallpaper}
    (h : ∀ path, (records.filter fun w => w.path.same path) =
      others.filter fun w => w.path.same path) (w : Wallpaper) : w ∈ records ↔ w ∈ others := by
  have hiff := congrArg (w ∈ ·) (h w.path)
  simpa only [List.mem_filter, FilePath.same_refl, and_true, eq_iff_iff] using hiff

/-- Records in the order of their paths are told by those of each path. -/
theorem eq_of_filter_same_eq {records others : List Wallpaper}
    (hrecords : records.Pairwise fun a b => a.path.le b.path = true)
    (hothers : others.Pairwise fun a b => a.path.le b.path = true)
    (h : ∀ path, (records.filter fun w => w.path.same path) =
      others.filter fun w => w.path.same path) : records = others := by
  have hmem := mem_iff_of_filter_same_eq h
  induction records generalizing others with
  | nil => exact (List.eq_nil_iff_forall_not_mem.2 fun w hw => List.not_mem_nil ((hmem w).2 hw)).symm
  | cons w records ih =>
    cases others with
    | nil => exact absurd ((hmem w).1 List.mem_cons_self) List.not_mem_nil
    | cons v others =>
      obtain ⟨hfirst, hrest⟩ := List.pairwise_cons.1 hrecords
      obtain ⟨hfirst', hrest'⟩ := List.pairwise_cons.1 hothers
      -- Each list holds the first record of the other one, so the two are of one path.
      have hpath : w.path.same v.path = true := by
        rcases List.mem_cons.1 ((hmem v).2 List.mem_cons_self) with rfl | hv
        · exact FilePath.same_refl _
        · rcases List.mem_cons.1 ((hmem w).1 List.mem_cons_self) with rfl | hw
          · exact FilePath.same_refl _
          · exact FilePath.same_of_le_of_le (hfirst v hv) (hfirst' w hw)
      have hheads := h v.path
      rw [List.filter_cons, List.filter_cons, if_pos hpath, if_pos (FilePath.same_refl _)] at hheads
      obtain ⟨rfl, -⟩ := List.cons.inj hheads
      have htails (path : FilePath) : (records.filter fun w => w.path.same path) =
          others.filter fun w => w.path.same path := by
        have hboth := h path
        rw [List.filter_cons, List.filter_cons] at hboth
        split at hboth
        · exact (List.cons.inj hboth).2
        · exact hboth
      exact congrArg (w :: ·) (ih hrest hrest' htails (mem_iff_of_filter_same_eq htails))

/-- Enumerations of the same files, in whatever order under each folder, are put in in one order. -/
theorem scanOrder_records_eq {disk : Disk} {recursive : Bool} {folders : List FilePath}
    {files : List FoundFile} (h : disk.Enumerates recursive folders files)
    (hdisk : disk.WellFormed) :
    scanOrder (disk.records files) = disk.recordsFound recursive folders := by
  obtain ⟨found, hfound, -, hfilter⟩ := h.exists_foundInAll hdisk
  rw [Disk.recordsFound_eq_scanOrder hfound]
  refine eq_of_filter_same_eq (pairwise_scanOrder _) (pairwise_scanOrder _) fun path => ?_
  rw [filter_same_scanOrder, filter_same_scanOrder, Disk.filter_records, Disk.filter_records,
    hfilter]

/-- What a scan makes of the files that it finds does not depend on the order in which each folder
lists them. -/
theorem scan_eq_of_enumerates (library : Library) {disk : Disk} {recursive : Bool}
    {folders : List FilePath} {files : List FoundFile}
    (h : disk.Enumerates recursive folders files) (hdisk : disk.WellFormed) (policy : Policy) :
    library.scan disk folders recursive policy =
      .ok (library.absorb disk folders policy files) := by
  obtain ⟨found, hfound, hperm, -⟩ := h.exists_foundInAll hdisk
  have horder := scanOrder_records_eq h hdisk
  have hrecords : (disk.records files).length = (disk.records found).length :=
    (hperm.filterMap _).length_eq
  rw [Disk.recordsFound_eq_scanOrder hfound] at horder
  rw [scan, hfound]
  simp only [Except.map, absorb, hperm.length_eq, hrecords, horder]

end Library

/-! ## Disks in another order -/

section Reorders

variable {disk other : Disk}

/-- The same files are found under a folder. -/
theorem Disk.Reorders.foundIn (h : other.Reorders disk) (hdisk : disk.WellFormed)
    (recursive : Bool) (folder : FilePath) :
    Reordered (other.foundIn recursive folder) (disk.foundIn recursive folder) := by
  unfold Disk.foundIn
  rw [h.isFolder_eq hdisk]
  split
  · exact (h.findImages hdisk recursive folder).map fun hperm => hperm.map _
  · exact .ok (List.Perm.refl _)

/-- Under some folders the same one is the first that cannot be listed, or else the same files are
found under each. -/
theorem Disk.Reorders.foundInAll_cases (h : other.Reorders disk) (hdisk : disk.WellFormed)
    (recursive : Bool) (folders : List FilePath) :
    (∃ failure, other.foundInAll recursive folders = .error failure ∧
      disk.foundInAll recursive folders = .error failure) ∨
    ∃ files, other.foundInAll recursive folders = .ok files ∧
      disk.Enumerates recursive folders files := by
  induction folders with
  | nil => exact Or.inr ⟨[], rfl, .nil⟩
  | cons folder folders ih =>
    have hfirst := h.foundIn hdisk recursive folder
    unfold Disk.foundInAll
    generalize hfound : other.foundIn recursive folder = found at hfirst
    generalize hfound' : disk.foundIn recursive folder = found' at hfirst
    cases hfirst with
    | error fault => exact Or.inl ⟨(folder, fault), rfl, rfl⟩
    | @ok files files' hperm =>
      rcases ih with ⟨failure, hother, hdisk⟩ | ⟨others, hother, hothers⟩
      · exact Or.inl ⟨failure, by rw [hother]; rfl, by rw [hdisk]; rfl⟩
      · exact Or.inr ⟨files ++ others, by rw [hother]; rfl, .cons hfound' hperm hothers⟩

/-- The same is made of the files that a scan finds. -/
theorem Disk.Reorders.absorb_eq (h : other.Reorders disk) (hdisk : disk.WellFormed)
    (library : Library) (folders : List FilePath) (policy : Policy) (files : List FoundFile) :
    library.absorb other folders policy files = library.absorb disk folders policy files := by
  have hrecords : other.records files = disk.records files := by
    unfold Disk.records
    rw [h.ofFile_eq hdisk]
  simp only [Library.absorb, hrecords, Library.purge, Wallpaper.isBacked, h.isFile_eq hdisk,
    h.isFolder_eq hdisk]

/-- A scan of the disk does the same in either order. -/
theorem Disk.Reorders.scan_eq (h : other.Reorders disk) (hdisk : disk.WellFormed)
    (library : Library) (folders : List FilePath) (recursive : Bool) (policy : Policy) :
    library.scan other folders recursive policy = library.scan disk folders recursive policy := by
  rcases h.foundInAll_cases hdisk recursive folders with ⟨failure, hother, hfound⟩ |
    ⟨files, hother, henumerates⟩
  · simp only [Library.scan, hother, hfound, Except.map]
  · rw [library.scan_eq_of_enumerates henumerates hdisk, ← h.absorb_eq hdisk]
    simp only [Library.scan, hother, Except.map]

end Reorders

namespace Library

/-- A scan does not depend on the order in which folders list their files.  Two lists of the files
under some folders that differ in the order under each folder only make the same report and the same
library, and these are the scan's.  And a disk that lists the entries of its folders in another order
is scanned with the same result, be that a report and a library or the first folder that cannot be
listed. -/
theorem scan_eq_of_reordered (library : Library) {disk : Disk} (hdisk : disk.WellFormed)
    (folders : List FilePath) (recursive : Bool) (policy : Policy) :
    (∀ files others, disk.Enumerates recursive folders files →
      disk.Enumerates recursive folders others →
      library.absorb disk folders policy files = library.absorb disk folders policy others ∧
      library.scan disk folders recursive policy =
        .ok (library.absorb disk folders policy files)) ∧
    ∀ other : Disk, other.Reorders disk →
      library.scan other folders recursive policy =
        library.scan disk folders recursive policy := by
  refine ⟨fun files others hfiles hothers => ?_, fun other h => ?_⟩
  · have hscan := library.scan_eq_of_enumerates hfiles hdisk policy
    have hscan' := library.scan_eq_of_enumerates hothers hdisk policy
    exact ⟨Except.ok.inj (hscan.symm.trans hscan'), hscan⟩
  · exact h.scan_eq hdisk library folders recursive policy

/-- A disk with the image under two names, listed in this order. -/
def listingDisk (first second : String) : Disk :=
  ⟨[(["walls"], .folder true), (["walls", first], .file imageBytes 10),
    (["walls", second], .file imageBytes 10)], [], 0⟩

/-- Two images in a folder that is given under two spellings are found in different orders, and
scanned with the same result. -/
theorem scan_eq_of_reordered_listing :
    (listingDisk "a.png" "b.png").foundInAll true [⟨"walls"⟩, ⟨"walls/."⟩] ≠
        (listingDisk "b.png" "a.png").foundInAll true [⟨"walls"⟩, ⟨"walls/."⟩] ∧
      empty.scan (listingDisk "b.png" "a.png") [⟨"walls"⟩, ⟨"walls/."⟩] true .version =
        empty.scan (listingDisk "a.png" "b.png") [⟨"walls"⟩, ⟨"walls/."⟩] true .version ∧
      empty.absorb (listingDisk "a.png" "b.png") [⟨"walls"⟩, ⟨"walls/."⟩] .version
          [⟨⟨"walls/b.png"⟩, ⟨"walls"⟩⟩, ⟨⟨"walls/a.png"⟩, ⟨"walls"⟩⟩,
            ⟨⟨"walls/./a.png"⟩, ⟨"walls/."⟩⟩, ⟨⟨"walls/./b.png"⟩, ⟨"walls/."⟩⟩] =
        empty.absorb (listingDisk "a.png" "b.png") [⟨"walls"⟩, ⟨"walls/."⟩] .version
          [⟨⟨"walls/a.png"⟩, ⟨"walls"⟩⟩, ⟨⟨"walls/b.png"⟩, ⟨"walls"⟩⟩,
            ⟨⟨"walls/./a.png"⟩, ⟨"walls/."⟩⟩, ⟨⟨"walls/./b.png"⟩, ⟨"walls/."⟩⟩] ∧
      empty.scan (listingDisk "a.png" "b.png") [⟨"walls"⟩, ⟨"walls/."⟩] true .version =
        .ok (empty.absorb (listingDisk "a.png" "b.png") [⟨"walls"⟩, ⟨"walls/."⟩] .version
          [⟨⟨"walls/b.png"⟩, ⟨"walls"⟩⟩, ⟨⟨"walls/a.png"⟩, ⟨"walls"⟩⟩,
            ⟨⟨"walls/./a.png"⟩, ⟨"walls/."⟩⟩, ⟨⟨"walls/./b.png"⟩, ⟨"walls/."⟩⟩]) := by
  have hdisk : (listingDisk "a.png" "b.png").WellFormed := ⟨by decide +kernel, by decide +kernel⟩
  have hother : (listingDisk "b.png" "a.png").Reorders (listingDisk "a.png" "b.png") :=
    ⟨(List.Perm.swap _ _ _).cons _, rfl⟩
  have hwalls : (listingDisk "a.png" "b.png").foundIn true ⟨"walls"⟩ =
      .ok [⟨⟨"walls/a.png"⟩, ⟨"walls"⟩⟩, ⟨⟨"walls/b.png"⟩, ⟨"walls"⟩⟩] := by decide +kernel
  have hagain : (listingDisk "a.png" "b.png").foundIn true ⟨"walls/."⟩ =
      .ok [⟨⟨"walls/./a.png"⟩, ⟨"walls/."⟩⟩, ⟨⟨"walls/./b.png"⟩, ⟨"walls/."⟩⟩] := by decide +kernel
  have hlisted : (listingDisk "a.png" "b.png").Enumerates true [⟨"walls"⟩, ⟨"walls/."⟩]
      [⟨⟨"walls/a.png"⟩, ⟨"walls"⟩⟩, ⟨⟨"walls/b.png"⟩, ⟨"walls"⟩⟩,
        ⟨⟨"walls/./a.png"⟩, ⟨"walls/."⟩⟩, ⟨⟨"walls/./b.png"⟩, ⟨"walls/."⟩⟩] :=
    .cons hwalls (.refl _) (.cons hagain (.refl _) .nil)
  have hswapped : (listingDisk "a.png" "b.png").Enumerates true [⟨"walls"⟩, ⟨"walls/."⟩]
      [⟨⟨"walls/b.png"⟩, ⟨"walls"⟩⟩, ⟨⟨"walls/a.png"⟩, ⟨"walls"⟩⟩,
        ⟨⟨"walls/./a.png"⟩, ⟨"walls/."⟩⟩, ⟨⟨"walls/./b.png"⟩, ⟨"walls/."⟩⟩] :=
    .cons hwalls (.swap _ _ _) (.cons hagain (.refl _) .nil)
  obtain ⟨hlists, hdisks⟩ :=
    scan_eq_of_reordered empty hdisk [⟨"walls"⟩, ⟨"walls/."⟩] true .version
  exact ⟨by decide +kernel, hdisks _ hother, hlists _ _ hswapped hlisted⟩

end Library

end WallpaperRotation
