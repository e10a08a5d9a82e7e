/-
# Folders below folders

The folders that are found going down from a folder.  Links are followed; a link back to a folder
that one came through is not.
-/
import WallpaperRotation.Disk.Read

namespace WallpaperRotation.Disk

/-- The folder behind an entry of another one, unless a link leads there from within it. -/
def subfolder? (disk : Disk) (within : List Place) (path : FilePath) : Option Place :=
  match disk.entry false path with
  | .ok (place, .folder _) => some place
  | .ok (_, .link _) =>
    match disk.entry true path with
    | .ok (place, .folder _) => if within.contains place then none else some place
    | _ => none
  | _ => none

/-- A depth that nobody passes: between two links that are followed one only goes down, and every
link that is followed leads to a folder that one did not come through. -/
def searchDepth (disk : Disk) : Nat :=
  (disk.nodes.length + 1) * (disk.nodes.length + 1)

/-- A folder at a place and, so many levels deep, the folders below it, each under the path on
which it was found; `within` are the places of the folders above it. -/
def foldersFrom (disk : Disk) : Nat → List Place → FilePath → Place → List (FilePath × Place)
  | 0, _, _, _ => []
  | depth + 1, within, path, place =>
    let names := match disk.list path with | .ok names => names | .error _ => []
    (path, place) :: names.flatMap fun name =>
      match disk.subfolder? (place :: within) (path.child name) with
      | some below => disk.foldersFrom depth (place :: within) (path.child name) below
      | none => []

/-- The folder at a path and all the folders below it; none when there is no folder. -/
def foldersUnder (disk : Disk) (path : FilePath) : List (FilePath × Place) :=
  match disk.entry true path with
  | .ok (place, .folder _) => disk.foldersFrom disk.searchDepth [] path place
  | _ => []

end WallpaperRotation.Disk
