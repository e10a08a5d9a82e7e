/-
# Watching folders

A watcher tells what appears, goes away or gets another name in the folders it watches, or in the
folders below them too.  It stays with a folder that is moved, and reports it under the name by
which it came to know it.  Folders that come or go below the ones that it watches are taken up or
given up when it catches up with what happened.
-/
import WallpaperRotation.Disk.Edit
import WallpaperRotation.Disk.Tree
import WallpaperRotation.Watch.Change

namespace WallpaperRotation

/-- A folder that is watched. -/
structure WatchedFolder where
  /-- The name under which it is reported. -/
  name : FilePath
  /-- Where it stands. -/
  place : Place
  /-- It is told as well when the folder itself is moved or removed. -/
  tellsItself : Bool

/-- The folders that are watched, in the order in which they were taken up. -/
structure Watcher where
  folders : List WatchedFolder
  /-- The folders below them are watched too. -/
  recursive : Bool
  /-- What went away under these names is still to be given up. -/
  gone : List FilePath
  /-- The folders that came under these names are still to be taken up. -/
  come : List FilePath

namespace Watcher

/-! ## Taking folders up and giving them up -/

/-- The folder at a place, by its last name. -/
def at? (watcher : Watcher) (place : Place) : Option WatchedFolder :=
  watcher.folders.reverse.find? fun folder => folder.place = place

/-- The folder of a name. -/
def named? (watcher : Watcher) (name : FilePath) : Option WatchedFolder :=
  watcher.folders.find? fun folder => folder.name.same name

/-- Takes up a folder.  A new name counts alone; a known one keeps what it told before. -/
def takeUp (watcher : Watcher) (name : FilePath) (place : Place) (tellsItself : Bool) : Watcher :=
  let told := (watcher.named? name).any fun known =>
    known.tellsItself || (watcher.at? place).any WatchedFolder.tellsItself
  { watcher with
    folders := watcher.folders.filter (fun folder => !folder.name.same name) ++
      [⟨name, place, tellsItself || told⟩] }

/-- Takes up the folder at a path and, where they are watched too, those below it. -/
def takeUpTree (watcher : Watcher) (disk : Disk) (path : FilePath) (tellsItself : Bool) :
    Watcher :=
  match disk.foldersUnder path with
  | [] => watcher
  | (name, place) :: below =>
    let first := watcher.takeUp name place tellsItself
    if watcher.recursive then
      below.foldl (fun watcher (name, place) => watcher.takeUp name place false) first
    else first

/-- Gives up the folder of a name, and those whose last names lead through it. -/
def giveUp (watcher : Watcher) (name : FilePath) : Watcher :=
  match watcher.named? name with
  | none => watcher
  | some lost =>
    let leadsThrough (folder : WatchedFolder) : Bool :=
      (watcher.at? folder.place).any fun last =>
        name.components.isPrefixOf last.name.components
    { watcher with
      folders := watcher.folders.filter fun folder =>
        folder.place ≠ lost.place && !leadsThrough folder }

/-- A watcher of the folders that are there. -/
def start (disk : Disk) (folders : List FilePath) (recursive : Bool) : Watcher :=
  folders.foldl (fun watcher path =>
    watcher.takeUpTree disk ((Disk.pathOf disk.here).join path) true) ⟨[], recursive, [], []⟩

/-- Gives up and takes up what went and came in the folders that are watched. -/
def catchUp (watcher : Watcher) (disk : Disk) : Watcher :=
  let left := watcher.gone.foldl giveUp watcher
  let came := if watcher.recursive then watcher.come else []
  { came.foldl (fun watcher name => watcher.takeUpTree disk name false) left with
    gone := [], come := [] }

/-! ## Telling -/

/-- The name of an entry of a watched folder. -/
def nameOf? (watcher : Watcher) (place : Place) : Option FilePath := do
  let folder ← watcher.at? place.dropLast
  some (folder.name.child (← place.getLast?))

/-- What is told of an entry, if its folder is watched. -/
def tell (watcher : Watcher) (kind : ChangeKind) (place : Place) : List Change :=
  (watcher.nameOf? place).toList.map fun name => ⟨kind, [name]⟩

/-- What is told of a folder itself. -/
def tellItself (watcher : Watcher) (kind : ChangeKind) (place : Place) : List Change :=
  match watcher.at? place with
  | some folder => if folder.tellsItself then [⟨kind, [folder.name]⟩] else []
  | none => []

/-- What is told of changes that only added to a disk. -/
def arrivals (watcher : Watcher) (before after : Disk) : List Change :=
  (before.arrivals after).flatMap (watcher.tell .created)

/-- What is told of changes that only took away from a disk. -/
def departures (watcher : Watcher) (before after : Disk) : List Change :=
  (after.arrivals before).flatMap fun place =>
    watcher.tellItself .removed place ++ watcher.tell .removed place

/-- What is told of a move to a place, in the stead of what stood there. -/
def relocation (watcher : Watcher) (source target : Place) : List Change :=
  watcher.tell .renamed source ++ watcher.tell .renamed target ++
    watcher.tellItself .removed target ++ watcher.tellItself .renamed source

/-! ## Following edits -/

/-- The places between which an edit moves something. -/
def moved? (disk : Disk) : Edit → Option (Place × Place)
  | .move source target =>
    match disk.entry false source, disk.land false target.withoutTrail with
    | .ok (old, _), .ok landing => some (old, landing.place)
    | _, _ => none
  | _ => none

/-- The folders where they stand after a move. -/
def follow (source target : Place) (folders : List WatchedFolder) : List WatchedFolder :=
  (folders.filter fun folder => !target.isPrefixOf folder.place).map fun folder =>
    if source.isPrefixOf folder.place then
      { folder with place := target ++ folder.place.drop source.length }
    else folder

/-- A folder stands at the place; a link to one is none. -/
def isFolderAt (disk : Disk) (place : Place) : Bool :=
  match disk.node? place with
  | some (.folder _) => true
  | _ => false

/-- The watcher that is still to give up what went away and to take up the folders that came. -/
def note (watcher : Watcher) (after : Disk) (left came : List Place) : Watcher :=
  { watcher with
    gone := watcher.gone ++ left.filterMap watcher.nameOf?
    come := watcher.come ++ (came.filter (isFolderAt after)).filterMap watcher.nameOf? }

/-- What the watcher tells of an edit, and the watcher after it. -/
def observe (watcher : Watcher) (before after : Disk) (edit : Edit) : List Change × Watcher :=
  match moved? before edit with
  | some (source, target) =>
    if source = target then ([], watcher)
    else
      let noted := watcher.note after [source] [target]
      (watcher.relocation source target,
        { noted with folders := follow source target watcher.folders })
  | none =>
    let noted := watcher.note after (after.arrivals before) (before.arrivals after)
    (watcher.arrivals before after ++ watcher.departures before after,
      { noted with folders := watcher.folders.filter fun folder =>
          (after.node? folder.place).isSome })

end Watcher

end WallpaperRotation
