/-
# Tags of the library

A tag is a name and a set of wallpapers.  Names are compared without the blanks around them and in
lower case, and they are kept like that.  A tag that holds no wallpaper is not kept.
-/
import WallpaperRotation.Library.Basic

namespace WallpaperRotation

/-- The name of a tag as it is kept. -/
def normalizeTag (name : String) : String :=
  String.ofList (Text.lowercase (Text.trim name.toList))

namespace Library

/-- The tag with a name. -/
def tag? (library : Library) (name : String) : Option Tag :=
  library.tags.find? fun tag => tag.name = normalizeTag name

/-- The names of the tags that hold an identifier. -/
def tagsOf (library : Library) (id : String) : List String :=
  (library.tags.filter fun tag => tag.ids.contains id).map Tag.name

/-- The tags in the order of their names. -/
def sortTags (tags : List Tag) : List Tag :=
  tags.mergeSort fun a b => decide (a.name ≤ b.name)

/-- The list with the first element that meets a condition changed. -/
def updateFirst {α : Type} (meets : α → Bool) (change : α → α) : List α → List α
  | [] => []
  | x :: rest => if meets x then change x :: rest else x :: updateFirst meets change rest

/-- The library with a wallpaper in a tag, which is made where it is missing. -/
def addTag (library : Library) (id name : String) : Except StoreError Library :=
  let name := normalizeTag name
  if name = "" then .error .emptyTag
  else if (library.get? id).isNone then .error (.notFound id)
  else
    match library.tags.find? fun tag => tag.name = name with
    | some _ =>
      .ok { library with
        tags := updateFirst (fun tag => tag.name = name)
          (fun tag => { tag with ids := tag.ids.insert id }) library.tags }
    | none =>
      .ok { library with tags := sortTags (library.tags ++ [⟨name, IdSet.empty.insert id⟩]) }

/-- Whether the wallpaper was in the tag, and the library where it is not. -/
def removeTag (library : Library) (id name : String) : Bool × Library :=
  let name := normalizeTag name
  let held := (library.tags.find? fun tag => tag.name = name).any fun tag => tag.ids.contains id
  let tags := updateFirst (fun tag => tag.name = name)
    (fun tag => { tag with ids := tag.ids.erase id }) library.tags
  (held, { library with tags := tags.filter fun tag => !tag.ids.isEmpty })

end Library

end WallpaperRotation
