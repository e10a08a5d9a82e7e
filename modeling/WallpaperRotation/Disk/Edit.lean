/-
# Edits of a disk

What people do to files and folders from outside: putting them there, removing them, and moving
them.
-/
import WallpaperRotation.Disk.Write

namespace WallpaperRotation

/-- An edit of a disk. -/
inductive Edit where
  /-- An entry is put at a path; the folders above it are made. -/
  | put (path : FilePath) (node : Node)
  /-- What stands at a path is removed, with all that is in it. -/
  | remove (path : FilePath)
  | move (source target : FilePath)

/-- The disk after an edit, unless the edit is refused. -/
def Disk.edit (disk : Disk) : Edit → Except DiskFault Disk
  | .put path node => disk.place path node
  | .remove path => disk.removeAll path
  | .move source target => disk.rename source target

namespace Disk

/-! ## What an edit changed -/

/-- The places where something stands now and did not before. -/
def arrivals (before after : Disk) : List Place :=
  (after.nodes.map Prod.fst).filter fun place => (before.node? place).isNone

/-- The place as a path from the root. -/
def pathOf (place : Place) : FilePath :=
  ⟨String.join (place.map ("/" ++ ·))⟩

end Disk

end WallpaperRotation
