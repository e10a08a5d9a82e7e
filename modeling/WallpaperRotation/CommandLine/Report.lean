/-
# Reports

What the program prints about scans, wallpapers, tags and the progress of the rotation, line by
line.
-/
import WallpaperRotation.Library.Scan
import WallpaperRotation.Rotation.Rotator

namespace WallpaperRotation.CommandLine

/-! ## Columns -/

/-- The text with blanks before it, up to a width. -/
def padLeft (width : Nat) (text : String) : String :=
  String.ofList (List.replicate (width - text.length) ' ') ++ text

/-- The text with blanks behind it, up to a width. -/
def padRight (width : Nat) (text : String) : String :=
  text ++ String.ofList (List.replicate (width - text.length) ' ')

/-! ## Wallpapers and tags -/

/-- A wallpaper with its size, its shape, its place and its tags. -/
def wallpaperLine (library : Library) (w : Wallpaper) : String :=
  let tags := library.tagsOf w.id
  w.shortId ++ "  " ++ padLeft 5 (toString w.width) ++ "x" ++ padRight 5 (toString w.height) ++
    " " ++ (if w.isPortrait then "P" else "L") ++ " " ++ w.path.text ++
    if tags = [] then "" else " [" ++ ", ".intercalate tags ++ "]"

/-- All tags with the numbers of their wallpapers. -/
def tagLines (library : Library) : List String :=
  if library.tags = [] then
    ["No tags defined.", "Add tags with: periwall tag add <wallpaper> <tag>"]
  else
    "Tags:" :: library.tags.map fun tag =>
      "  " ++ tag.name ++ " (" ++ toString tag.ids.ids.length ++ ")"

/-- The wallpapers of a tag. -/
def taggedLines (library : Library) (name : String) : List String :=
  match library.tag? name with
  | none => ["No wallpapers with tag '" ++ name ++ "'"]
  | some tag =>
    ("Wallpapers with tag '" ++ tag.name ++ "':") :: (library.withIds tag.ids).map fun w =>
      "  " ++ w.shortId ++ "  " ++ w.path.text

/-! ## Scans -/

/-- What became of the files that a scan found, and what the library at a path holds now. -/
def scanLines (report : ScanReport) (library : Library) (path : FilePath) : List String :=
  ["Found " ++ toString report.found ++ " images:",
   "  New:       " ++ toString report.added,
   "  Updated:   " ++ toString report.updated,
   "  Versioned: " ++ toString report.versioned,
   "  Rejected:  " ++ toString report.rejected,
   "  Unreadable:" ++ padLeft 2 (toString report.failed),
   "  Removed:   " ++ toString report.removed,
   "Library holds " ++ toString library.size ++ " wallpapers (" ++ path.text ++ ")."]

/-! ## Progress -/

/-- How far a target has come. -/
def targetLines (plan : Plan) (library : Library) (state : RotationState) (target : Target) :
    List String :=
  let scope := plan.scope target
  let progress := state.target target
  let candidates :=
    match scope.candidates library plan.folders with
    | .ok found => toString found.length
    | .error error => "unavailable: " ++ error.message
  let name := if (plan.config.scopeOf target).isSet then scope.text else "whole library"
  let lastShown :=
    match progress.ledger.entries.getLast? with
    | some entry => ["  Last shown: " ++ entry.shownAt.shortText]
    | none => []
  ["", target.name ++ ":",
   "  Scope:      " ++ name ++ " (" ++ candidates ++ " candidates)",
   "  Position:   " ++ toString progress.cursor,
   "  Shown:      " ++ toString progress.ledger.entries.length ++ " this cycle"] ++ lastShown ++
  ["  Current:    " ++ (progress.current.map FilePath.text).getD "-"]

/-- The library, the settings and how far each target has come. -/
def statusLines (plan : Plan) (library : Library) (state : RotationState) : List String :=
  ["Library: " ++ toString library.size ++ " wallpapers, " ++ toString library.tags.length ++
    " tags"] ++
  (plan.folders.map fun folder =>
    "  " ++ folder.text ++ " (" ++ toString (library.inFolder folder).length ++ ")") ++
  ["",
   "Mode:     " ++ plan.config.rotation.mode.displayName,
   "Targets:  " ++ plan.config.rotation.target.displayName,
   "Interval: " ++ plan.config.rotation.interval,
   "Conflict: " ++ plan.config.library.conflict.displayName] ++
  Target.all.flatMap (targetLines plan library state) ++
  ["", "Library-wide history: " ++ toString state.library.entries.length]

end WallpaperRotation.CommandLine
