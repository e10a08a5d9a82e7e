/-
# The library as a document

The library is kept as a JSON object with the records and the tags.  The size and the age of a file
may be missing from a record, and each of the two lists from the document.  A library is put in
order when it is read.
-/
import WallpaperRotation.Json.Printer
import WallpaperRotation.Json.Reader
import WallpaperRotation.Library.Basic

namespace WallpaperRotation

/-! ## Numbers and paths -/

/-- A number of 32 bits. -/
def Json.word : Json.Reader UInt32 :=
  Json.restrict (Json.natural 4294967295) fun n => some (UInt32.ofNat n)

/-- A number of 64 bits. -/
def Json.longWord : Json.Reader UInt64 :=
  Json.restrict (Json.natural 18446744073709551615) fun n => some (UInt64.ofNat n)

/-- A path. -/
def Json.path : Json.Reader FilePath :=
  Json.restrict Json.string fun text => some ⟨text⟩

namespace Wallpaper

/-! ## Records -/

/-- A record that is being filled in. -/
structure Draft where
  id : Option String
  name : Option String
  path : Option FilePath
  width : Option UInt32
  height : Option UInt32
  folder : Option FilePath
  fileSize : Option UInt64
  modifiedAt : Option UInt64

/-- The record of a draft; without a size or an age of the file these are zero. -/
def Draft.finish (draft : Draft) : Option Wallpaper := do
  some
    { id := ← draft.id
      name := ← draft.name
      path := ← draft.path
      width := ← draft.width
      height := ← draft.height
      folder := ← draft.folder
      fileSize := draft.fileSize.getD 0
      modifiedAt := draft.modifiedAt.getD 0 }

/-- The fields of a record. -/
def shape : Json.Shape Draft Wallpaper where
  blank := ⟨none, none, none, none, none, none, none, none⟩
  fields :=
    [.of "id" Draft.id (fun draft x => { draft with id := some x }) Json.string,
     .of "name" Draft.name (fun draft x => { draft with name := some x }) Json.string,
     .of "path" Draft.path (fun draft x => { draft with path := some x }) Json.path,
     .of "width" Draft.width (fun draft x => { draft with width := some x }) Json.word,
     .of "height" Draft.height (fun draft x => { draft with height := some x }) Json.word,
     .of "folder" Draft.folder (fun draft x => { draft with folder := some x }) Json.path,
     .of "file_size" Draft.fileSize (fun draft x => { draft with fileSize := some x })
       Json.longWord,
     .of "modified_at" Draft.modifiedAt (fun draft x => { draft with modifiedAt := some x })
       Json.longWord]
  finish := Draft.finish

/-- The record as a value. -/
def value (w : Wallpaper) : Json.Value :=
  .object
    [("id", .string w.id),
     ("name", .string w.name),
     ("path", .string w.path.text),
     ("width", .natural w.width.toNat),
     ("height", .natural w.height.toNat),
     ("folder", .string w.folder.text),
     ("file_size", .natural w.fileSize.toNat),
     ("modified_at", .natural w.modifiedAt.toNat)]

end Wallpaper

namespace Tag

/-! ## Tags -/

/-- A tag that is being filled in. -/
structure Draft where
  name : Option String
  ids : Option IdSet

/-- The fields of a tag. -/
def shape : Json.Shape Draft Tag where
  blank := ⟨none, none⟩
  fields :=
    [.of "name" Draft.name (fun draft x => { draft with name := some x }) Json.string,
     .of "ids" Draft.ids (fun draft x => { draft with ids := some x })
       (Json.restrict (Json.list Json.string) fun ids => some (IdSet.ofList ids))]
  finish draft := do some ⟨← draft.name, ← draft.ids⟩

/-- The tag as a value. -/
def value (tag : Tag) : Json.Value :=
  .object [("name", .string tag.name), ("ids", .list (tag.ids.ids.map .string))]

end Tag

namespace Library

/-! ## Libraries -/

/-- A library that is being filled in. -/
structure Draft where
  wallpapers : Option (List Wallpaper)
  tags : Option (List Tag)

/-- The fields of a library. -/
def shape : Json.Shape Draft Library where
  blank := ⟨none, none⟩
  fields :=
    [.of "wallpapers" Draft.wallpapers (fun draft x => { draft with wallpapers := some x })
       (Json.list (Json.record Wallpaper.shape)),
     .of "tags" Draft.tags (fun draft x => { draft with tags := some x })
       (Json.list (Json.record Tag.shape))]
  finish draft := some ⟨draft.wallpapers.getD [], draft.tags.getD []⟩

/-- The library as a value. -/
def value (library : Library) : Json.Value :=
  .object
    [("wallpapers", .list (library.wallpapers.map Wallpaper.value)),
     ("tags", .list (library.tags.map Tag.value))]

/-- The text of a library. -/
def text (library : Library) : String := library.value.text

/-- The library that a text holds, in order. -/
def ofText (text : String) : Except Json.Fault Library :=
  (Json.parse (Json.record shape) text).map sorted

end Library

end WallpaperRotation
