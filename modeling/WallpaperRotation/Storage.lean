/-
# Documents on a disk

Loading and saving the configuration, the library and the state of the rotation.  A document that
is not there yet is loaded as an empty one; the configuration is written out at once in that case.
Saving makes the folders above a document, and what it made stays even when it fails.
-/
import WallpaperRotation.Config.Document
import WallpaperRotation.Disk.Write
import WallpaperRotation.Failure
import WallpaperRotation.Library.Document
import WallpaperRotation.Rotation.Document
import WallpaperRotation.UserFolders

namespace WallpaperRotation

/-- What came of an operation on a disk, and the disk after it. -/
abbrev OnDisk (α : Type) := Except Failure α × Disk

namespace Disk

/-- The text of a document; `none` when nothing stands at the path. -/
def documentText? (disk : Disk) (document : Document) (path : FilePath) :
    Except Failure (Option String) :=
  if disk.holds path then
    match disk.readText path with
    | .ok text => .ok (some text)
    | .error reason => .error (.unreadable document path reason)
  else .ok none

/-- Writes the text of a document. -/
def saveText (disk : Disk) (document : Document) (path : FilePath) (text : String) :
    OnDisk Unit :=
  match disk.makeParents path with
  | .error (reason, disk) => (.error (.disk reason), disk)
  | .ok disk =>
    match disk.writeText path text with
    | .error reason => (.error (.unwritable document path reason), disk)
    | .ok disk => (.ok (), disk)

end Disk

/-! ## The library and the state -/

/-- The library kept at a path. -/
def Library.load (disk : Disk) (path : FilePath) : Except Failure Library := do
  match ← disk.documentText? .library path with
  | none => return Library.empty
  | some text =>
    match Library.ofText text with
    | .ok library => return library
    | .error fault => throw (.unparsed .library path (.json fault))

/-- Keeps the library at a path. -/
def Library.save (library : Library) (disk : Disk) (path : FilePath) : OnDisk Unit :=
  disk.saveText .library path library.text

/-- The state kept at a path. -/
def RotationState.load (disk : Disk) (path : FilePath) : Except Failure RotationState := do
  match ← disk.documentText? .rotationState path with
  | none => return RotationState.fresh
  | some text =>
    match RotationState.ofText text with
    | .ok state => return state
    | .error fault => throw (.unparsed .rotationState path (.json fault))

/-- Keeps the state at a path. -/
def RotationState.save (state : RotationState) (disk : Disk) (path : FilePath) : OnDisk Unit :=
  disk.saveText .rotationState path state.text

/-! ## The configuration -/

/-- Keeps the configuration at a path. -/
def Config.save (config : Config) (disk : Disk) (path : FilePath) : OnDisk Unit :=
  disk.saveText .config path config.text

/-- The configuration kept at a path, by a user with a home folder. -/
def Config.load (disk : Disk) (home path : FilePath) : OnDisk Config :=
  let folder := UserFolders.wallpapers disk home
  match disk.documentText? .config path with
  | .error failure => (.error failure, disk)
  | .ok (some text) =>
    match Config.ofText? folder text with
    | some config => (.ok config, disk)
    | none => (.error (.unparsed .config path .toml), disk)
  | .ok none =>
    match (Config.initial folder).save disk path with
    | (.ok (), disk) => (.ok (Config.initial folder), disk)
    | (.error failure, disk) => (.error failure, disk)

end WallpaperRotation
