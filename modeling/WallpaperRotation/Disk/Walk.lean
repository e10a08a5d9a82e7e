/-
# Following paths

A path is walked name by name from the root or from the folder where relative paths start.  Links
on the way are followed, at most forty of them; a link at the very end is followed on request.
-/
import WallpaperRotation.Disk.Basic

namespace WallpaperRotation

/-! ## Hops -/

/-- One move of a walk. -/
inductive Hop where
  /-- Go nowhere; only a folder lets one do so. -/
  | stay
  | up
  | into (name : String)
  deriving DecidableEq, Repr

/-- The move that a piece of a path asks for. -/
def Hop.ofPiece (piece : List Char) : Hop :=
  if FilePath.isIdle piece then .stay
  else if piece = ['.', '.'] then .up
  else .into (String.ofList piece)

/-- The moves that a path asks for.  A separator at its end asks to stay in a folder. -/
def FilePath.hops (path : FilePath) : List Hop :=
  (FilePath.pieces path.text.toList).map Hop.ofPiece

/-- The longest name of an entry, in bytes. -/
def longestName : Nat := 255

/-- The shortest path that is too long, in bytes. -/
def pathLimit : Nat := 4096

namespace Disk

/-! ## Walking -/

/-- How far one gets without following a link. -/
inductive Stop where
  | entry (place : Place) (node : Node)
  /-- Nothing stands under this name, but in this folder it could. -/
  | vacancy (folder : Place) (name : String)
  | refused (reason : DiskFault)
  /-- A link in a folder, and the moves still to make behind it. -/
  | link (folder : Place) (target : String) (rest : List Hop)

/-- Where a walk ends. -/
inductive Landing where
  | entry (place : Place) (node : Node)
  /-- Nothing stands under this name, but in this folder it could. -/
  | vacancy (folder : Place) (name : String)

/-- Makes the moves from a place, up to the first link that has to be followed. -/
def descend (disk : Disk) (follow : Bool) (place : Place) : List Hop → Stop
  | [] =>
    match disk.node? place with
    | some node => .entry place node
    | none => .refused .noEntry
  | hop :: rest =>
    match disk.node? place with
    | some (.folder _) =>
      match hop with
      | .stay => descend disk follow place rest
      | .up => descend disk follow place.dropLast rest
      | .into name =>
        if name.utf8ByteSize > longestName then .refused .nameTooLong
        else
          match disk.node? (place ++ [name]) with
          | none => if rest = [] then .vacancy place name else .refused .noEntry
          | some (.link target) =>
            if rest = [] ∧ !follow then .entry (place ++ [name]) (.link target)
            else .link place target rest
          | some _ => descend disk follow (place ++ [name]) rest
    | some _ => .refused .notFolder
    | none => .refused .noEntry

/-- The place from which a path starts. -/
def startOf (folder : Place) (path : FilePath) : Place :=
  if path.isAbsolute then [] else folder

/-- Makes the moves from a place, following at most so many links. -/
def walk (disk : Disk) (follow : Bool) : Nat → Place → List Hop → Except DiskFault Landing
  | fuel, place, hops =>
    match disk.descend follow place hops with
    | .entry place node => .ok (.entry place node)
    | .vacancy folder name => .ok (.vacancy folder name)
    | .refused reason => .error reason
    | .link folder target rest =>
      match fuel with
      | 0 => .error .tooManyLinks
      | fuel + 1 =>
        walk disk follow fuel (startOf folder ⟨target⟩) (FilePath.hops ⟨target⟩ ++ rest)

/-- The number of links that one walk follows. -/
def linkLimit : Nat := 40

/-- Where a path leads. -/
def land (disk : Disk) (follow : Bool) (path : FilePath) : Except DiskFault Landing :=
  if path.text.toList.contains (Char.ofNat 0) then .error .nulInPath
  else if path.text = "" then .error .noEntry
  else if path.text.utf8ByteSize ≥ pathLimit then .error .nameTooLong
  else disk.walk follow linkLimit (startOf disk.here path) path.hops

/-- The entry that a path leads to. -/
def entry (disk : Disk) (follow : Bool) (path : FilePath) : Except DiskFault (Place × Node) :=
  match disk.land follow path with
  | .ok (.entry place node) => .ok (place, node)
  | .ok (.vacancy _ _) => .error .noEntry
  | .error reason => .error reason

end Disk

end WallpaperRotation
