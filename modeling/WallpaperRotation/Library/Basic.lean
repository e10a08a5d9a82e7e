/-
# The library of wallpapers

The library holds the records of all indexed wallpapers, the newest first, and the tags that group
them.  This module has its views: looking records up by identifier, by path or by the start of an
identifier, and picking out those of a folder or of a set.
-/
import WallpaperRotation.IdSet
import WallpaperRotation.Wallpaper

namespace WallpaperRotation

/-! ## Parts -/

/-- A named set of wallpapers. -/
structure Tag where
  name : String
  ids : IdSet
  deriving DecidableEq

/-- What happens to a wallpaper whose identifier belongs to another file already. -/
inductive Policy where
  /-- It is refused. -/
  | reject
  /-- It takes the stead of the other one. -/
  | replace
  /-- It is kept beside the other one, under an identifier of its own. -/
  | version
  deriving DecidableEq, Repr

/-- The policy as shown to people. -/
def Policy.displayName : Policy → String
  | .reject => "reject"
  | .replace => "replace"
  | .version => "version"

/-- Why the library refuses. -/
inductive StoreError where
  /-- The identifier is taken by a file at another path. -/
  | duplicateId (id : String) (existing : FilePath)
  | notFound (query : String)
  /-- More than one identifier starts with the query. -/
  | ambiguous (query : String) (matching : Nat)
  | emptyTag
  deriving DecidableEq, Repr

/-- The refusal in words. -/
def StoreError.message : StoreError → String
  | .duplicateId id existing =>
    "wallpaper " ++ id ++ " already exists (stored at " ++ existing.text ++ ")"
  | .notFound query => "no wallpaper matches '" ++ query ++ "'"
  | .ambiguous query matching =>
    "'" ++ query ++ "' is ambiguous (" ++ toString matching ++ " wallpapers match)"
  | .emptyTag => "tag name must not be empty"

/-- The records of all indexed wallpapers and the tags that group them. -/
structure Library where
  wallpapers : List Wallpaper
  tags : List Tag
  deriving DecidableEq

namespace Library

/-- The library without records. -/
def empty : Library := ⟨[], []⟩

/-! ## Looking up -/

/-- The number of records. -/
def size (library : Library) : Nat := library.wallpapers.length

/-- The record with an identifier. -/
def get? (library : Library) (id : String) : Option Wallpaper :=
  library.wallpapers.find? fun w => w.id = id

/-- The record of the file at a path. -/
def byPath? (library : Library) (path : FilePath) : Option Wallpaper :=
  library.wallpapers.find? fun w => w.path.same path

/-- The identifier starts with the query. -/
def startsWith (id query : String) : Bool :=
  query.toList.isPrefixOf id.toList

/-- The record that a query stands for: an identifier, a path, or the start of one identifier
only. -/
def find (library : Library) (home : FilePath) (query : String) : Except StoreError Wallpaper :=
  match library.get? query with
  | some w => .ok w
  | none =>
    match library.byPath? (FilePath.expandTilde home ⟨query⟩) with
    | some w => .ok w
    | none =>
      match library.wallpapers.filter fun w => startsWith w.id query with
      | [] => .error (.notFound query)
      | [w] => .ok w
      | matching => .error (.ambiguous query matching.length)

/-- The records whose identifiers are in a set. -/
def withIds (library : Library) (ids : IdSet) : List Wallpaper :=
  library.wallpapers.filter fun w => ids.contains w.id

/-- The records found under a folder. -/
def inFolder (library : Library) (folder : FilePath) : List Wallpaper :=
  library.wallpapers.filter fun w => w.folder.same folder

/-! ## Order -/

/-- The first record does not come after the second one: it is newer or, of the same age, has the
path that comes first. -/
def precedes (a b : Wallpaper) : Bool :=
  b.modifiedAt < a.modifiedAt || (a.modifiedAt = b.modifiedAt && a.path.le b.path)

/-- The library with its records in order. -/
def sorted (library : Library) : Library :=
  { library with wallpapers := library.wallpapers.mergeSort precedes }

/-- Of two records one does not come after the other. -/
theorem precedes_total (a b : Wallpaper) : (precedes a b || precedes b a) = true := by
  have htotal := FilePath.le_total a.path b.path
  simp only [precedes, Bool.or_eq_true, Bool.and_eq_true, decide_eq_true_eq,
    UInt64.lt_iff_toNat_lt, ← UInt64.toNat_inj] at *
  rcases Nat.lt_trichotomy a.modifiedAt.toNat b.modifiedAt.toNat with h | h | h
  · exact Or.inr (Or.inl h)
  · rcases htotal with hp | hp
    · exact Or.inl (Or.inr ⟨h, hp⟩)
    · exact Or.inr (Or.inr ⟨h.symm, hp⟩)
  · exact Or.inl (Or.inl h)

/-- A record does not come after itself. -/
theorem precedes_refl (w : Wallpaper) : precedes w w = true := by
  have htotal := precedes_total w w
  rwa [Bool.or_self] at htotal

/-- The order of records is transitive. -/
theorem precedes_trans (a b c : Wallpaper) (hab : precedes a b = true)
    (hbc : precedes b c = true) : precedes a c = true := by
  simp only [precedes, Bool.or_eq_true, Bool.and_eq_true, decide_eq_true_eq,
    UInt64.lt_iff_toNat_lt, ← UInt64.toNat_inj] at *
  rcases hab with h | ⟨h, hp⟩ <;> rcases hbc with h' | ⟨h', hp'⟩
  · exact Or.inl (by omega)
  · exact Or.inl (by omega)
  · exact Or.inl (by omega)
  · exact Or.inr ⟨by omega, FilePath.le_trans hp hp'⟩

/-- The records of a sorted library are in order. -/
theorem pairwise_sorted (library : Library) :
    library.sorted.wallpapers.Pairwise fun a b => precedes a b = true :=
  List.pairwise_mergeSort precedes_trans precedes_total _

/-! ## Removing -/

/-- The tags without an identifier; a tag that held no other goes away. -/
def untag (id : String) (tags : List Tag) : List Tag :=
  (tags.map fun tag => { tag with ids := tag.ids.erase id }).filter fun tag => !tag.ids.isEmpty

/-- The record with an identifier, and the library without it and its place in the tags. -/
def remove? (library : Library) (id : String) : Option (Wallpaper × Library) :=
  (library.get? id).map fun w =>
    (w, ⟨library.wallpapers.eraseP (fun w => w.id = id), untag id library.tags⟩)

/-- The record of the file at a path, and the library without it. -/
def removeByPath? (library : Library) (path : FilePath) : Option (Wallpaper × Library) :=
  (library.byPath? path).bind fun w => library.remove? w.id

/-- The records with these identifiers, removed one after the other, and what is left. -/
def removeAll (library : Library) : List String → List Wallpaper × Library
  | [] => ([], library)
  | id :: ids =>
    match library.remove? id with
    | none => library.removeAll ids
    | some (w, rest) =>
      let (removed, rest) := rest.removeAll ids
      (w :: removed, rest)

/-- The records that are not backed by a file in one of the folders, and what is left. -/
def purge (library : Library) (disk : Disk) (folders : List FilePath) :
    List Wallpaper × Library :=
  let present := folders.filter disk.isFolder
  let isDoomed (w : Wallpaper) : Bool := !present.any w.folder.same || !w.isBacked disk
  library.removeAll ((library.wallpapers.filter isDoomed).map Wallpaper.id)

/-- The records whose names are not those of images, and what is left. -/
def sanitize (library : Library) : List Wallpaper × Library :=
  let isDoomed (w : Wallpaper) : Bool := !(FilePath.mk w.name).isImage
  library.removeAll ((library.wallpapers.filter isDoomed).map Wallpaper.id)

end Library

end WallpaperRotation
