/-
# Wallpapers

A wallpaper is the record of an image file: its identifier, which is the digest of its contents or
a version of it, its place, its size and the folder of the library where it was found.
-/
import WallpaperRotation.Checksum.Blake3
import WallpaperRotation.Image.Header
import WallpaperRotation.ImageFile

namespace WallpaperRotation

/-- The record of an image file. -/
structure Wallpaper where
  id : String
  name : String
  path : FilePath
  width : UInt32
  height : UInt32
  /-- The folder of the library under which the file was found. -/
  folder : FilePath
  /-- The size of the file in bytes. -/
  fileSize : UInt64
  /-- The time of the file's last change, in seconds of the epoch. -/
  modifiedAt : UInt64
  deriving DecidableEq, Repr

namespace Wallpaper

/-! ## Views -/

/-- The characters that fill exactly so many bytes, when the text has such a start. -/
def bytePrefix : Nat → List Char → Option (List Char)
  | 0, _ => some []
  | _ + 1, [] => none
  | bytes + 1, c :: rest =>
    if c.utf8Size ≤ bytes + 1 then (bytePrefix (bytes + 1 - c.utf8Size) rest).map (c :: ·)
    else none
termination_by _ text => text.length

/-- The start of an identifier that is shown to people: twelve bytes, or the whole identifier when
it has no such start. -/
def shorten (id : String) : String :=
  ((bytePrefix 12 id.toList).map String.ofList).getD id

/-- The start of the identifier that is shown to people. -/
def shortId (wallpaper : Wallpaper) : String :=
  shorten wallpaper.id

/-- The image is higher than wide. -/
def isPortrait (wallpaper : Wallpaper) : Bool :=
  wallpaper.height > wallpaper.width

/-- The file and its folder are both there. -/
def isBacked (wallpaper : Wallpaper) (disk : Disk) : Bool :=
  disk.isFile wallpaper.path && disk.isFolder wallpaper.folder

/-! ## Reading files -/

/-- Why a file's contents have no digest. -/
inductive DigestFault where
  | opening (reason : DiskFault)
  | reading (reason : DiskFault)
  deriving DecidableEq, Repr

/-- The digest of a file's contents.  A folder can be opened like a file, but not read. -/
def contentId (disk : Disk) (path : FilePath) : Except DigestFault String :=
  match disk.read path with
  | .ok bytes => .ok (Blake3.digest bytes)
  | .error .isFolder => .error (.reading .isFolder)
  | .error reason => .error (.opening reason)

/-- Why a file makes no record. -/
inductive FileFault where
  /-- The size of the image cannot be read. -/
  | noImage
  | noDigest (fault : DigestFault)
  deriving DecidableEq, Repr

/-- The record of a file found under a folder. -/
def ofFile (disk : Disk) (path folder : FilePath) : Except FileFault Wallpaper :=
  match Image.size? disk path with
  | none => .error .noImage
  | some size =>
    match contentId disk path with
    | .error fault => .error (.noDigest fault)
    | .ok id =>
      let length := match disk.read path with | .ok bytes => bytes.size | .error _ => 0
      .ok
        { id := id
          name := path.fileName?.getD ""
          path := path
          width := UInt32.ofNat size.width
          height := UInt32.ofNat size.height
          folder := folder
          fileSize := UInt64.ofNat length
          modifiedAt := UInt64.ofNat ((disk.modified? path).getD 0).toNat }

end Wallpaper

end WallpaperRotation
