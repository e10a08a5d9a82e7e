/-
# Putting wallpapers into the library

A record goes under its own identifier when that is free or belongs to the same file.  Otherwise a
policy decides.  A record that was kept for the same file under another identifier goes away, as
the file must have changed.
-/
import WallpaperRotation.Library.Basic

namespace WallpaperRotation

/-- How a record was put in, with the identifier that it is kept under. -/
inductive Inserted where
  | new (id : String)
  /-- A record under the same identifier was overwritten. -/
  | updated (id : String)
  /-- The identifier belongs to another file, so the record is kept under a version of it. -/
  | versioned (id : String)
  deriving DecidableEq, Repr

/-- The identifier that a record is kept under. -/
def Inserted.id : Inserted → String
  | .new id | .updated id | .versioned id => id

namespace Library

/-! ## Versions -/

/-- The version of an identifier with a number. -/
def versionId (id : String) (number : Nat) : String :=
  id ++ "-v" ++ toString number

/-- The identifier is free, or belongs to the file at the path. -/
def isOpen (library : Library) (path : FilePath) (id : String) : Bool :=
  match library.get? id with
  | none => true
  | some w => w.path.same path

/-- The least version number from two on whose identifier is open to the path.  One of as many as
there are records, and one more, is. -/
def openVersion (library : Library) (path : FilePath) (id : String) : Nat :=
  ((List.range' 2 (library.size + 1)).find? fun n => library.isOpen path (versionId id n)).getD
    (library.size + 2)

/-! ## Steps -/

/-- The library without the records that the file of an incoming one had under other
identifiers. -/
def dropStale (library : Library) (incoming : Wallpaper) : Library :=
  let isStale (w : Wallpaper) : Bool := w.path.same incoming.path && w.id ≠ incoming.id
  (library.removeAll ((library.wallpapers.filter isStale).map Wallpaper.id)).2

/-- The list with the first element that meets a condition replaced. -/
def replaceFirst {α : Type} (meets : α → Bool) (value : α) : List α → List α
  | [] => []
  | x :: rest => if meets x then value :: rest else x :: replaceFirst meets value rest

/-- The library with a record in the stead of the one under its identifier. -/
def overwrite (library : Library) (w : Wallpaper) : Library :=
  { library with wallpapers := replaceFirst (fun other => other.id = w.id) w library.wallpapers }

/-- The library with one more record. -/
def append (library : Library) (w : Wallpaper) : Library :=
  { library with wallpapers := library.wallpapers ++ [w] }

/-- Puts a record under a version of its identifier. -/
def insertVersion (library : Library) (w : Wallpaper) : Inserted × Library :=
  let id := versionId w.id (library.openVersion w.path w.id)
  let w := { w with id := id }
  match library.get? id with
  | none => (.versioned id, (library.dropStale w).append w)
  | some _ => (.updated id, library.overwrite w)

/-! ## Inserting -/

/-- Puts a record into the library. -/
def insert (library : Library) (w : Wallpaper) (policy : Policy) :
    Except StoreError (Inserted × Library) :=
  match library.get? w.id with
  | none => .ok (.new w.id, ((library.dropStale w).append w).sorted)
  | some existing =>
    if existing.path.same w.path then .ok (.updated w.id, (library.overwrite w).sorted)
    else
      match policy with
      | .reject => .error (.duplicateId w.id existing.path)
      | .replace => .ok (.updated w.id, ((library.dropStale w).overwrite w).sorted)
      | .version =>
        let (outcome, library) := library.insertVersion w
        .ok (outcome, library.sorted)

end Library

end WallpaperRotation
