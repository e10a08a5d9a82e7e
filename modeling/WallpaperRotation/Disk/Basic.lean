/-
# A file system as a value

A disk holds folders, files and symbolic links under the list of names that leads to them from the
root.  The main facts say what a place holds after one entry was set or removed.
-/
import WallpaperRotation.FilePath

namespace WallpaperRotation

/-! ## Refusals -/

/-- Why the file system refuses. -/
inductive DiskFault where
  | noEntry
  | denied
  | taken
  | notFolder
  | isFolder
  | intoItself
  | nameTooLong
  | notEmpty
  | tooManyLinks
  /-- A path with a NUL character, which no file system takes. -/
  | nulInPath
  /-- An argument of a program with a NUL character. -/
  | nulInArgument
  /-- A file whose bytes are no text. -/
  | notText
  deriving DecidableEq, Repr

/-- The refusal in words. -/
def DiskFault.message : DiskFault → String
  | .noEntry => "No such file or directory (os error 2)"
  | .denied => "Permission denied (os error 13)"
  | .taken => "File exists (os error 17)"
  | .notFolder => "Not a directory (os error 20)"
  | .isFolder => "Is a directory (os error 21)"
  | .intoItself => "Invalid argument (os error 22)"
  | .nameTooLong => "File name too long (os error 36)"
  | .notEmpty => "Directory not empty (os error 39)"
  | .tooManyLinks => "Too many levels of symbolic links (os error 40)"
  | .nulInPath => "file name contained an unexpected NUL byte"
  | .nulInArgument => "nul byte found in provided data"
  | .notText => "stream did not contain valid UTF-8"

/-! ## Disks -/

/-- Where an entry stands: the names that lead to it from the root. -/
abbrev Place := List String

/-- What stands at a place. -/
inductive Node where
  /-- A folder, whose names may be kept from being listed. -/
  | folder (listable : Bool)
  /-- A file with its bytes and its time of modification, in seconds of the epoch. -/
  | file (bytes : ByteArray) (modified : Int)
  /-- A symbolic link to a path as seen from the link's folder. -/
  | link (target : String)

/-- A file system, the folder from which relative paths start, and the time stamped on files that
are written from now on. -/
structure Disk where
  nodes : List (Place × Node)
  here : Place
  clock : Int

namespace Disk

/-- What stands at a place.  The root is always there. -/
def node? (disk : Disk) (place : Place) : Option Node :=
  if place = [] then some (.folder true)
  else (disk.nodes.find? fun entry => entry.1 = place).map Prod.snd

/-- The disk with an entry at a place, in the stead of what stood there. -/
def set (disk : Disk) (place : Place) (node : Node) : Disk :=
  { disk with nodes := disk.nodes.filter (fun entry => entry.1 ≠ place) ++ [(place, node)] }

/-- The disk without a place and all that is under it. -/
def prune (disk : Disk) (place : Place) : Disk :=
  { disk with nodes := disk.nodes.filter fun entry => !place.isPrefixOf entry.1 }

/-- A disk with one empty folder below the root, which is also where relative paths start. -/
def withFolder (name : String) : Disk :=
  ⟨[([name], .folder true)], [name], 0⟩

/-- The names and entries directly under a place. -/
def children (disk : Disk) (place : Place) : List (String × Node) :=
  disk.nodes.filterMap fun entry =>
    match entry.1.getLast? with
    | some name => if entry.1.dropLast = place then some (name, entry.2) else none
    | none => none

/-- An entry that was set is there. -/
theorem node?_set_self (disk : Disk) {place : Place} (node : Node) (h : place ≠ []) :
    (disk.set place node).node? place = some node := by
  have hnone : (disk.nodes.filter fun entry => entry.1 ≠ place).find?
      (fun entry => entry.1 = place) = none := by
    simp [List.find?_eq_none]
  simp only [node?, set, h, if_false, List.find?_append, hnone]
  simp

/-- Setting an entry leaves every other place as it was. -/
theorem node?_set_of_ne (disk : Disk) {place other : Place} (node : Node) (h : other ≠ place) :
    (disk.set place node).node? other = disk.node? other := by
  have hfind : (disk.nodes.filter fun entry => entry.1 ≠ place).find?
      (fun entry => entry.1 = other) = disk.nodes.find? (fun entry => entry.1 = other) := by
    rw [List.find?_filter]
    congr 1
    funext entry
    by_cases he : entry.1 = other <;> simp [he, h]
  unfold node? set
  split
  · rfl
  · rw [List.find?_append, hfind]
    simp [Ne.symm h]

end Disk

end WallpaperRotation
