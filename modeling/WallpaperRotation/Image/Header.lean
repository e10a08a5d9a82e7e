/-
# Sizes of image files

The extension of a file's name alone says how its header is read; the contents have to fit.
-/
import WallpaperRotation.Disk.Read
import WallpaperRotation.Image.Bmp
import WallpaperRotation.Image.Dds
import WallpaperRotation.Image.Farbfeld
import WallpaperRotation.Image.Gif
import WallpaperRotation.Image.Ico
import WallpaperRotation.Image.Jpeg
import WallpaperRotation.Image.Netpbm
import WallpaperRotation.Image.Png
import WallpaperRotation.Image.Qoi
import WallpaperRotation.Image.Radiance
import WallpaperRotation.Image.Tga
import WallpaperRotation.Image.Tiff
import WallpaperRotation.Image.WebP

namespace WallpaperRotation.Image

/-- How the contents of an image file are laid out. -/
inductive Format where
  | bmp
  | dds
  | farbfeld
  | gif
  | ico
  | jpeg
  | netpbm
  | png
  | qoi
  | radiance
  | tga
  | tiff
  | webp
  deriving DecidableEq, Repr

/-- The format that an extension stands for, in any case of its ASCII letters. -/
def Format.ofExtension? (extension : String) : Option Format :=
  match extension.toLower with
  | "bmp" => some .bmp
  | "dds" => some .dds
  | "ff" => some .farbfeld
  | "gif" => some .gif
  | "ico" => some .ico
  | "jpg" | "jpeg" | "jfif" => some .jpeg
  | "pbm" | "pgm" | "ppm" | "pam" | "pnm" => some .netpbm
  | "png" | "apng" => some .png
  | "qoi" => some .qoi
  | "hdr" => some .radiance
  | "tga" => some .tga
  | "tif" | "tiff" => some .tiff
  | "webp" => some .webp
  | _ => none

/-- The size that contents of a format announce. -/
def Format.size? (format : Format) (bytes : Bytes) : Option Size :=
  match format with
  | .bmp => Bmp.size? bytes
  | .dds => Dds.size? bytes
  | .farbfeld => Farbfeld.size? bytes
  | .gif => Gif.size? bytes
  | .ico => Ico.size? bytes
  | .jpeg => Jpeg.size? bytes
  | .netpbm => Netpbm.size? bytes
  | .png => Png.size? bytes
  | .qoi => Qoi.size? bytes
  | .radiance => Radiance.size? bytes
  | .tga => Tga.size? bytes
  | .tiff => Tiff.size? bytes
  | .webp => WebP.size? bytes

/-- The size of the image file at the path. -/
def size? (disk : Disk) (path : FilePath) : Option Size := do
  let format ← Format.ofExtension? (← path.extension?)
  let bytes ← (disk.read path).toOption
  format.size? bytes.toList

end WallpaperRotation.Image
