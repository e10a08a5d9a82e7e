/-
# Files that count as images

A file counts as an image by its extension alone, in any case of letters.
-/
import WallpaperRotation.FilePath
import WallpaperRotation.Text.Lowercase

namespace WallpaperRotation

/-- The extensions of supported images. -/
def imageExtensions : List String :=
  ["jpg", "jpeg", "png", "webp"]

/-- The path has the extension of a supported image. -/
def FilePath.isImage (path : FilePath) : Bool :=
  match path.extension? with
  | some extension => imageExtensions.contains (String.ofList (Text.lowercase extension.toList))
  | none => false

end WallpaperRotation
