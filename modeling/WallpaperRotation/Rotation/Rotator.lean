/-
# Rotating

A rotation picks the next wallpaper for each of its targets, has it shown, and remembers what it
did.  A target without a scope, or with a scope that cannot be had, gets any wallpaper of the
library.  When both targets go in order through the same scope they get the same wallpaper.
-/
import WallpaperRotation.Storage

namespace WallpaperRotation

/-! ## Settings -/

/-- What a rotation goes by: what the user decided, the home folder that a tilde stands for, and
the time that is put down for what is shown. -/
structure Plan where
  config : Config
  home : FilePath
  now : Timestamp

namespace Plan

/-- The folders of the library. -/
def folders (plan : Plan) : List FilePath :=
  plan.config.folders plan.home

/-- The scope of a target. -/
def scope (plan : Plan) (target : Target) : Scope :=
  (plan.config.scopeOf target).scope plan.home

/-- Both targets get the same wallpaper: they go in order through the same scope. -/
def sharesPick (plan : Plan) (selection : Selection) : Bool :=
  selection = .both && plan.config.rotation.mode = .sequential &&
    (plan.scope .home).same (plan.scope .lock)

end Plan

/-- What puts wallpapers on the targets; it may change the disk, and it may fail. -/
structure Applier where
  apply : Target → Wallpaper → Disk → OnDisk Unit
  /-- Takes away what is shown on a target. -/
  clear : Target → Disk → OnDisk Unit

/-- What is done to the disk when people are told that a target has a new wallpaper. -/
abbrev Notifier := Target → Wallpaper → Disk → Disk

/-! ## Rotators -/

/-- Something that happened during a rotation. -/
inductive Event where
  /-- A wallpaper was put on a target. -/
  | applied (target : Target) (w : Wallpaper)
  /-- A wallpaper could not be put on a target. -/
  | refused (target : Target) (w : Wallpaper)
  /-- People were told that a target has a new wallpaper. -/
  | told (target : Target) (w : Wallpaper)
  /-- A target was cleared. -/
  | cleared (target : Target)
  deriving DecidableEq, Repr

/-- What came of a rotation for one target. -/
inductive Outcome where
  | applied (target : Target) (w : Wallpaper)
  /-- There was nothing to pick for the target. -/
  | skipped (target : Target)
  deriving DecidableEq, Repr

/-- What a rotation works on, and what happened up to now. -/
structure Rotator where
  library : Library
  state : RotationState
  words : Words
  disk : Disk
  events : List Event

namespace Rotator

/-- The rotator with one more event. -/
def log (rotator : Rotator) (event : Event) : Rotator :=
  { rotator with events := rotator.events ++ [event] }

/-- The number of records that were dropped because they are no images or have no file, and the
rotator without them. -/
def validate (rotator : Rotator) (plan : Plan) : Nat × Rotator :=
  let (unsuited, library) := rotator.library.sanitize
  let (missing, library) := library.purge rotator.disk plan.folders
  (unsuited.length + missing.length, { rotator with library := library })

/-! ## Picking -/

/-- Any wallpaper of the library that was not shown in its cycle. -/
def pickFromLibrary (rotator : Rotator) (plan : Plan) : Option Wallpaper × Rotator :=
  let (pick, chance) :=
    selectRandom rotator.library.wallpapers ⟨rotator.state.library, rotator.words⟩ plan.now
  (pick, { rotator with
    state := { rotator.state with library := chance.ledger }
    words := chance.words })

/-- The next wallpaper of some candidates for a target. -/
def pickAmong (rotator : Rotator) (plan : Plan) (target : Target) (candidates : List Wallpaper) :
    Option Wallpaper × Rotator :=
  let (pick, state, words) :=
    (rotator.state.target target).select candidates plan.config.rotation.mode rotator.words
      plan.now
  (pick, { rotator with state := rotator.state.setTarget target state, words := words })

/-- The next wallpaper for a target; `none` when there is nothing to pick from. -/
def pick (rotator : Rotator) (plan : Plan) (target : Target) : Option Wallpaper × Rotator :=
  if plan.scope target = .all then rotator.pickFromLibrary plan
  else
    match (plan.scope target).candidates rotator.library plan.folders with
    | .ok candidates => rotator.pickAmong plan target candidates
    | .error _ => rotator.pickFromLibrary plan

/-! ## Showing -/

/-- Puts a wallpaper on a target and tells people. -/
def present (rotator : Rotator) (applier : Applier) (notifier : Notifier) (target : Target)
    (w : Wallpaper) : Except Failure Outcome × Rotator :=
  match applier.apply target w rotator.disk with
  | (.error failure, disk) =>
    (.error failure, { rotator with disk := disk }.log (.refused target w))
  | (.ok (), disk) =>
    let shown := { rotator with
      disk := notifier target w disk
      state := rotator.state.updateTarget target fun state =>
        { state with current := some w.path } }
    (.ok (.applied target w), (shown.log (.applied target w)).log (.told target w))

/-- Shows what was picked for a target, if anything was. -/
def presentPick (rotator : Rotator) (applier : Applier) (notifier : Notifier) (target : Target) :
    Option Wallpaper → Except Failure Outcome × Rotator
  | some w => rotator.present applier notifier target w
  | none => (.ok (.skipped target), rotator)

/-- Makes a step for each target, up to the first one that fails. -/
def forTargets (step : Rotator → Target → Except Failure Outcome × Rotator) :
    List Target → Rotator → Except Failure (List Outcome) × Rotator
  | [], rotator => (.ok [], rotator)
  | target :: targets, rotator =>
    match step rotator target with
    | (.error failure, rotator) => (.error failure, rotator)
    | (.ok outcome, rotator) =>
      match forTargets step targets rotator with
      | (.error failure, rotator) => (.error failure, rotator)
      | (.ok outcomes, rotator) => (.ok (outcome :: outcomes), rotator)

/-! ## Rotating -/

/-- Picks once for both targets; the position of the home screen becomes that of the lock screen
too. -/
def rotateTogether (rotator : Rotator) (plan : Plan) (applier : Applier) (notifier : Notifier) :
    Except Failure (List Outcome) × Rotator :=
  let (pick, rotator) := rotator.pick plan .home
  let aligned := { rotator with
    state := rotator.state.updateTarget .lock fun state =>
      { state with cursor := rotator.state.home.cursor } }
  forTargets (fun rotator target => rotator.presentPick applier notifier target pick) Target.all
    aligned

/-- Picks and shows for each target. -/
def rotateEach (rotator : Rotator) (plan : Plan) (targets : List Target) (applier : Applier)
    (notifier : Notifier) : Except Failure (List Outcome) × Rotator :=
  forTargets (fun rotator target =>
    let (pick, rotator) := rotator.pick plan target
    rotator.presentPick applier notifier target pick) targets rotator

/-- Rotates the targets of a selection. -/
def rotate (rotator : Rotator) (plan : Plan) (selection : Selection) (applier : Applier)
    (notifier : Notifier) : Except Failure (List Outcome) × Rotator :=
  let ready :=
    if plan.config.library.validateBeforeRotate then (rotator.validate plan).2 else rotator
  if plan.sharesPick selection then ready.rotateTogether plan applier notifier
  else ready.rotateEach plan selection.targets applier notifier

/-- Where the library and the state of the rotation are kept. -/
structure DataFiles where
  library : FilePath
  state : FilePath

/-- Keeps the library and, if that went well, the state. -/
def save (rotator : Rotator) (files : DataFiles) : Except Failure Unit × Rotator :=
  match rotator.library.save rotator.disk files.library with
  | (.error failure, disk) => (.error failure, { rotator with disk := disk })
  | (.ok (), disk) =>
    let (result, disk) := rotator.state.save disk files.state
    (result, { rotator with disk := disk })

/-- Rotates, and keeps what was reached even when a target failed.  A failure to rotate is told
rather than one to save. -/
def rotateAndSave (rotator : Rotator) (plan : Plan) (selection : Selection) (applier : Applier)
    (notifier : Notifier) (files : DataFiles) : Except Failure (List Outcome) × Rotator :=
  let (result, rotator) := rotator.rotate plan selection applier notifier
  let (saved, rotator) := rotator.save files
  match result, saved with
  | .ok outcomes, .ok () => (.ok outcomes, rotator)
  | .ok _, .error failure => (.error failure, rotator)
  | .error failure, _ => (.error failure, rotator)

/-! ## Deleting -/

/-- What came of deleting the wallpaper of a target. -/
structure Deleted where
  path : FilePath
  /-- The file was still there. -/
  removed : Bool
  /-- The record of the file, which went with it. -/
  record : Option Wallpaper
  deriving DecidableEq, Repr

/-- The target no longer shows the file at the path. -/
def forget (path : FilePath) (state : TargetState) : TargetState :=
  if state.current.any path.same then { state with current := none } else state

/-- The library without the record of a file, and the targets without the file. -/
def dropFile (rotator : Rotator) (path : FilePath) : Option Wallpaper × Rotator :=
  let state := { rotator.state with
    home := forget path rotator.state.home
    lock := forget path rotator.state.lock }
  match rotator.library.removeByPath? path with
  | some (w, library) => (some w, { rotator with library := library, state := state })
  | none => (none, { rotator with state := state })

/-- Deletes the wallpaper that a target shows, if there is one: clears the target, removes the file
and drops its record.  The record of a file that is gone already is left for the next time records
are checked. -/
def deleteCurrent (rotator : Rotator) (target : Target) (applier : Applier) :
    Except Failure (Option Deleted) × Rotator :=
  match (rotator.state.target target).current with
  | none => (.ok none, rotator)
  | some path =>
    match applier.clear target rotator.disk with
    | (.error failure, disk) => (.error failure, { rotator with disk := disk })
    | (.ok (), disk) =>
      let cleared := { rotator with disk := disk }.log (.cleared target)
      if !disk.holds path then (.ok (some ⟨path, false, none⟩), cleared)
      else
        match disk.removeFile path with
        | .error reason => (.error (.notDeleted path reason), cleared)
        | .ok disk =>
          let (record, rotator) := { cleared with disk := disk }.dropFile path
          (.ok (some ⟨path, true, record⟩), rotator)

end Rotator

end WallpaperRotation
