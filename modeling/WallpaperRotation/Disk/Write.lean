/-
# Changing a disk

Writing, making, moving and removing entries.  An operation that fails changes nothing, apart from
the making of a chain of folders, which keeps those it made before it failed.
-/
import WallpaperRotation.Disk.Read

namespace WallpaperRotation

/-- The path without the separators at its end; the root keeps its own. -/
def FilePath.withoutTrail (path : FilePath) : FilePath :=
  match path.text.toList.reverse.dropWhile (· = '/') with
  | [] => if path.text = "" then path else ⟨"/"⟩
  | reversed => ⟨String.ofList reversed.reverse⟩

/-- The path ends with a separator. -/
def FilePath.hasTrail (path : FilePath) : Bool :=
  path.text.toList.getLast? = some '/'

namespace Disk

/-! ## Files -/

/-- Writes a file, new or in the stead of the one that stood there.  Links are followed, also one
that leads nowhere yet. -/
def write (disk : Disk) (path : FilePath) (bytes : ByteArray) : Except DiskFault Disk :=
  match disk.land true path.withoutTrail with
  | .error reason => .error reason
  | .ok landing =>
    if path.hasTrail then .error .isFolder
    else
      match landing with
      | .vacancy folder name => .ok (disk.set (folder ++ [name]) (.file bytes disk.clock))
      | .entry place (.file _ _) => .ok (disk.set place (.file bytes disk.clock))
      | .entry _ _ => .error .isFolder

/-- Writes a file with a text in it. -/
def writeText (disk : Disk) (path : FilePath) (text : String) : Except DiskFault Disk :=
  disk.write path text.toUTF8

/-- Removes a file, or a link itself, but no folder. -/
def removeFile (disk : Disk) (path : FilePath) : Except DiskFault Disk :=
  match disk.entry false path with
  | .ok (_, .folder _) => .error .isFolder
  | .ok (place, _) => .ok (disk.prune place)
  | .error reason => .error reason

/-- Removes whatever stands at the path, with all that is in it. -/
def removeAll (disk : Disk) (path : FilePath) : Except DiskFault Disk :=
  match disk.entry false path with
  | .ok (place, _) => .ok (disk.prune place)
  | .error reason => .error reason

/-! ## Folders -/

/-- Makes a folder in one that is there. -/
def makeFolder (disk : Disk) (path : FilePath) : Except DiskFault Disk :=
  match disk.land false path.withoutTrail with
  | .ok (.vacancy folder name) => .ok (disk.set (folder ++ [name]) (.folder true))
  | .ok (.entry _ _) => .error .taken
  | .error reason => .error reason

/-- Makes a folder, being content with one that is there. -/
def ensureFolder (disk : Disk) (path : FilePath) : Except DiskFault Disk :=
  match disk.makeFolder path with
  | .ok disk => .ok disk
  | .error reason => if disk.isFolder path then .ok disk else .error reason

/-- Makes a folder and, up to a number of levels, those above it that are missing. -/
def makeFoldersUpTo (disk : Disk) : Nat → FilePath → Except (DiskFault × Disk) Disk
  | 0, _ => .ok disk
  | levels + 1, path =>
    if path.components = [] then .ok disk
    else
      match disk.ensureFolder path with
      | .ok disk => .ok disk
      | .error .noEntry =>
        match path.parent? with
        | none => .error (.noEntry, disk)
        | some parent =>
          match makeFoldersUpTo disk levels parent with
          | .error fault => .error fault
          | .ok disk =>
            match disk.ensureFolder path with
            | .ok disk => .ok disk
            | .error reason => .error (reason, disk)
      | .error reason => .error (reason, disk)

/-- Makes a folder with all those above it that are missing. -/
def makeFolders (disk : Disk) (path : FilePath) : Except (DiskFault × Disk) Disk :=
  disk.makeFoldersUpTo (path.components.length + 1) path

/-- Makes the folder in which the path's last name stands. -/
def makeParents (disk : Disk) (path : FilePath) : Except (DiskFault × Disk) Disk :=
  match path.parent? with
  | some parent => disk.makeFolders parent
  | none => .ok disk

/-! ## Moving -/

/-- The entries at and under a place, as they would be named from another one. -/
def transplant (disk : Disk) (source target : Place) : List (Place × Node) :=
  disk.nodes.filterMap fun entry =>
    if source.isPrefixOf entry.1 then some (target ++ entry.1.drop source.length, entry.2)
    else none

/-- The disk with the tree at one place moved to another one. -/
def relocate (disk : Disk) (source target : Place) : Disk :=
  let cleared := (disk.prune target).prune source
  { cleared with nodes := cleared.nodes ++ disk.transplant source target }

/-- The place where a walk ends. -/
def Landing.place : Landing → Place
  | .entry place _ => place
  | .vacancy folder name => folder ++ [name]

/-- Gives the entry at a path a new one, in the stead of what stood there: a folder only takes the
stead of an empty folder, anything else not that of a folder. -/
def rename (disk : Disk) (source target : FilePath) : Except DiskFault Disk := do
  let (old, node) ← disk.entry false source
  let isTree := match node with | .folder _ => true | _ => false
  let landing ← disk.land false (if isTree then target.withoutTrail else target)
  let new := landing.place
  if old = new then return disk
  if old.isPrefixOf new then throw .intoItself
  match landing with
  | .vacancy _ _ => return disk.relocate old new
  | .entry _ (.folder _) =>
    if !isTree then throw .isFolder
    else if !(disk.children new).isEmpty then throw .notEmpty
    else return disk.relocate old new
  | .entry _ _ => if isTree then throw .notFolder else return disk.relocate old new

/-! ## Laying out -/

/-- Puts an entry under the path's last name, making the folders above it. -/
def place (disk : Disk) (path : FilePath) (node : Node) : Except DiskFault Disk :=
  match disk.makeParents path.withoutTrail with
  | .error (reason, _) => .error reason
  | .ok disk =>
    match disk.land (match node with | .link _ => false | _ => true) path.withoutTrail with
    | .ok (.vacancy folder name) => .ok (disk.set (folder ++ [name]) node)
    | .ok (.entry place standing) =>
      match standing, node with
      | .folder _, .folder _ => .ok disk
      | .folder _, _ => .error .isFolder
      | _, .folder _ => .error .taken
      | _, _ => .ok (disk.set place node)
    | .error reason => .error reason

end Disk

end WallpaperRotation
