/-
# Reading a disk

Questions about paths and the reading of files and folders.  Nothing here changes the disk.
-/
import WallpaperRotation.Disk.Walk

namespace WallpaperRotation.Disk

/-! ## Questions -/

/-- Something stands at the path, behind links. -/
def holds (disk : Disk) (path : FilePath) : Bool :=
  (disk.entry true path).isOk

/-- A file stands at the path, behind links. -/
def isFile (disk : Disk) (path : FilePath) : Bool :=
  match disk.entry true path with
  | .ok (_, .file _ _) => true
  | _ => false

/-- A folder stands at the path, behind links. -/
def isFolder (disk : Disk) (path : FilePath) : Bool :=
  match disk.entry true path with
  | .ok (_, .folder _) => true
  | _ => false

/-- The time of modification of the file at the path, in seconds of the epoch. -/
def modified? (disk : Disk) (path : FilePath) : Option Int :=
  match disk.entry true path with
  | .ok (_, .file _ modified) => some modified
  | _ => none

/-! ## Contents -/

/-- The bytes of the file at the path. -/
def read (disk : Disk) (path : FilePath) : Except DiskFault ByteArray :=
  match disk.entry true path with
  | .ok (_, .file bytes _) => .ok bytes
  | .ok (_, _) => .error .isFolder
  | .error reason => .error reason

/-- The text of the file at the path. -/
def readText (disk : Disk) (path : FilePath) : Except DiskFault String := do
  let bytes ← disk.read path
  match String.fromUTF8? bytes with
  | some text => .ok text
  | none => .error .notText

/-- The names in the folder at the path. -/
def list (disk : Disk) (path : FilePath) : Except DiskFault (List String) :=
  match disk.entry true path with
  | .ok (place, .folder true) => .ok ((disk.children place).map Prod.fst)
  | .ok (_, .folder false) => .error .denied
  | .ok (_, _) => .error .notFolder
  | .error reason => .error reason

end WallpaperRotation.Disk
