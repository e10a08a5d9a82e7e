/-
# Finding image files in folders

The image files in a folder or, on request, in all the folders below it.  Links are followed; a
link back to a folder that the search is in is not.
-/
import WallpaperRotation.Disk.Tree
import WallpaperRotation.ImageFile

namespace WallpaperRotation.Disk

/-! ## One folder -/

/-- The file at the path is an image by its name. -/
def isImageFile (disk : Disk) (path : FilePath) : Bool :=
  disk.isFile path && path.isImage

/-- The image files directly in a folder. -/
def imagesIn (disk : Disk) (folder : FilePath) : Except DiskFault (List FilePath) := do
  let names ← disk.list folder
  return (names.map folder.child).filter disk.isImageFile

/-! ## Folders below folders -/

/-- The image files in a folder and, so many levels deep, in the folders below it; `within` are
the places of the folders that the search is in. -/
def imagesUnder (disk : Disk) : Nat → List Place → FilePath → List FilePath
  | 0, _, _ => []
  | depth + 1, within, folder =>
    match disk.list folder with
    | .error _ => []
    | .ok names =>
      names.flatMap fun name =>
        let path := folder.child name
        match disk.subfolder? within path with
        | some place => disk.imagesUnder depth (place :: within) path
        | none => if disk.isImageFile path then [path] else []

/-- The image files under a folder that is there. -/
def findImages (disk : Disk) (recursive : Bool) (folder : FilePath) :
    Except DiskFault (List FilePath) :=
  if recursive then
    match disk.entry true folder with
    | .ok (place, _) => .ok (disk.imagesUnder disk.searchDepth [place] folder)
    | .error _ => .ok []
  else disk.imagesIn folder

end WallpaperRotation.Disk
