/-
# Changes in watched folders

What the file system tells about a folder, and which of it concerns the library: that a file with
the name of an image appeared, went away or got another name.
-/
import WallpaperRotation.ImageFile

namespace WallpaperRotation

/-- What happened to some files. -/
inductive ChangeKind where
  | created
  | removed
  | renamed
  /-- Contents or attributes of a file changed. -/
  | modified
  | accessed
  /-- Nothing more is known. -/
  | other
  deriving DecidableEq, Repr

/-- A change in a watched folder. -/
structure Change where
  kind : ChangeKind
  paths : List FilePath

/-- The change may concern the library. -/
def Change.isRelevant (change : Change) : Bool :=
  [.created, .removed, .renamed].contains change.kind && change.paths.any FilePath.isImage

end WallpaperRotation
