/-
# Scanning folders into the library

A scan finds the image files under the folders of the library, reads a record from each, puts the
records into the library in the order of their paths, and then drops the records that have no file
any more.  It counts what became of the files.
-/
import WallpaperRotation.Library.Insert
import WallpaperRotation.Library.Search

namespace WallpaperRotation

/-! ## Counters -/

/-- What became of the files that a scan found. -/
structure ScanReport where
  found : Nat
  added : Nat
  updated : Nat
  versioned : Nat
  rejected : Nat
  failed : Nat
  /-- The number of records dropped at the end. -/
  removed : Nat
  deriving DecidableEq, Repr

namespace ScanReport

/-- The report before anything was done. -/
def blank : ScanReport := ⟨0, 0, 0, 0, 0, 0, 0⟩

/-- The report with one more file put in, or refused. -/
def count (report : ScanReport) : Except StoreError Inserted → ScanReport
  | .ok (.new _) => { report with added := report.added + 1 }
  | .ok (.updated _) => { report with updated := report.updated + 1 }
  | .ok (.versioned _) => { report with versioned := report.versioned + 1 }
  | .error _ => { report with rejected := report.rejected + 1 }

end ScanReport

/-! ## Files -/

/-- An image file that a scan found, and the folder under which it did. -/
structure FoundFile where
  path : FilePath
  folder : FilePath
  deriving DecidableEq

/-- The image files under a folder; none when there is no such folder. -/
def Disk.foundIn (disk : Disk) (recursive : Bool) (folder : FilePath) :
    Except DiskFault (List FoundFile) :=
  if disk.isFolder folder then
    (disk.findImages recursive folder).map fun paths => paths.map fun path => ⟨path, folder⟩
  else .ok []

/-- The image files under the folders, or the first folder that cannot be listed. -/
def Disk.foundInAll (disk : Disk) (recursive : Bool) :
    List FilePath → Except (FilePath × DiskFault) (List FoundFile)
  | [] => .ok []
  | folder :: folders =>
    match disk.foundIn recursive folder with
    | .error reason => .error (folder, reason)
    | .ok files => (disk.foundInAll recursive folders).map fun others => files ++ others

/-- The records of the files that can be read. -/
def Disk.records (disk : Disk) (files : List FoundFile) : List Wallpaper :=
  files.filterMap fun file => (Wallpaper.ofFile disk file.path file.folder).toOption

namespace Library

/-! ## Scanning -/

/-- Puts records into the library one after the other, counting what becomes of them. -/
def insertAll (library : Library) (policy : Policy) (report : ScanReport) :
    List Wallpaper → ScanReport × Library
  | [] => (report, library)
  | w :: rest =>
    match library.insert w policy with
    | .ok (outcome, library) => library.insertAll policy (report.count (.ok outcome)) rest
    | .error error => library.insertAll policy (report.count (.error error)) rest

/-- The records in the order in which a scan puts them in. -/
def scanOrder (records : List Wallpaper) : List Wallpaper :=
  records.mergeSort fun a b => a.path.le b.path

/-- Takes in the files that were found: the part of a scan that cannot fail. -/
def absorb (library : Library) (disk : Disk) (folders : List FilePath) (policy : Policy)
    (files : List FoundFile) : ScanReport × Library :=
  let records := disk.records files
  let report := { ScanReport.blank with
    found := files.length
    failed := files.length - records.length }
  let (report, library) := library.insertAll policy report (scanOrder records)
  let (removed, library) := library.purge disk folders
  ({ report with removed := removed.length }, library)

/-- Scans the folders, or tells the first one that cannot be listed. -/
def scan (library : Library) (disk : Disk) (folders : List FilePath) (recursive : Bool)
    (policy : Policy) : Except (FilePath × DiskFault) (ScanReport × Library) :=
  (disk.foundInAll recursive folders).map (library.absorb disk folders policy)

end Library

end WallpaperRotation
