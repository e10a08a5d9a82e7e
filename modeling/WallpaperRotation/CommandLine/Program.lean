/-
# The program

Carrying out what the command line asks for, on a disk and with a stream of random words.  Every
task loads the documents that it needs, prints what it did and keeps what it changed.
-/
import WallpaperRotation.CommandLine.Report
import WallpaperRotation.CommandLine.Request
import WallpaperRotation.Rotation.Commands
import WallpaperRotation.Text.Lines
import WallpaperRotation.Watch.Daemon
import WallpaperRotation.Watch.Watcher

namespace WallpaperRotation.CommandLine

/-! ## The console -/

/-- What a run of the program works on, and the lines that it printed. -/
structure Console where
  disk : Disk
  words : Words
  printed : List String
  /-- The failures that were told on the error output. -/
  complaints : List String

/-- A part of a run, which may fail; what it did up to then stays done. -/
abbrev ConsoleM := ExceptT Failure (StateM Console)

/-- Prints a text, as one line unless there are line feeds in it. -/
def say (text : String) : ConsoleM Unit :=
  modify fun console => { console with
    printed := console.printed ++ (Text.lines text.toList).map String.ofList }

/-- Prints some texts. -/
def sayAll (texts : List String) : ConsoleM Unit :=
  texts.forM say

/-- Reads from the disk. -/
def reading {α : Type} (read : Disk → Except Failure α) : ConsoleM α := do
  match read (← get).disk with
  | .ok value => return value
  | .error failure => throw failure

/-- Works on the disk. -/
def working {α : Type} (work : Disk → OnDisk α) : ConsoleM α := do
  let (result, disk) := work (← get).disk
  modify fun console => { console with disk := disk }
  match result with
  | .ok value => return value
  | .error failure => throw failure

/-! ## Bearings -/

/-- What a run goes by, and where its documents are. -/
structure Desk where
  plan : Plan
  configPath : FilePath
  files : Rotator.DataFiles

namespace Desk

/-- Loads the library. -/
def loadLibrary (desk : Desk) : ConsoleM Library :=
  reading fun disk => Library.load disk desk.files.library

/-- Loads the state of the rotation. -/
def loadState (desk : Desk) : ConsoleM RotationState :=
  reading fun disk => RotationState.load disk desk.files.state

/-- Keeps the library. -/
def saveLibrary (desk : Desk) (library : Library) : ConsoleM Unit :=
  working fun disk => library.save disk desk.files.library

/-- Keeps the state of the rotation. -/
def saveState (desk : Desk) (state : RotationState) : ConsoleM Unit :=
  working fun disk => state.save disk desk.files.state

/-! ## Scanning and rotating -/

/-- Scans the configured folders into a library, and keeps it. -/
def scanInto (desk : Desk) (library : Library) : ConsoleM (ScanReport × Library) := do
  let setting := desk.plan.config.library
  match library.scan (← get).disk desk.plan.folders setting.recursive setting.conflict with
  | .error (folder, reason) => throw (.unlisted folder reason)
  | .ok (report, library) =>
    desk.saveLibrary library
    return (report, library)

/-- Loads the library; one without records is scanned first. -/
def loadOrScan (desk : Desk) : ConsoleM Library := do
  let library ← desk.loadLibrary
  if library.wallpapers = [] then return (← desk.scanInto library).2
  return library

/-- The lines that tell of the events of a rotation. -/
def eventLines (desk : Desk) (events : List Event) : List String :=
  if desk.plan.config.notifications.enabled then
    events.filterMap fun event =>
      match event with
      | .told target w => some (target.name ++ ": " ++ w.path.text)
      | _ => none
  else []

/-- Lets a rotator work on the library and the state, and prints what it tells people. -/
def rotating {α : Type} (desk : Desk) (library : Library) (state : RotationState)
    (work : Rotator → Except Failure α × Rotator) : ConsoleM (α × Rotator) := do
  let console ← get
  let (result, rotator) := work ⟨library, state, console.words, console.disk, []⟩
  set { console with disk := rotator.disk, words := rotator.words }
  sayAll (desk.eventLines rotator.events)
  match result with
  | .ok value => return (value, rotator)
  | .error failure => throw failure

/-- Rotates once. -/
def rotateOnce (desk : Desk) (selection : Option Selection) : ConsoleM (List Outcome) := do
  let library ← desk.loadOrScan
  let state ← desk.loadState
  let config := desk.plan.config
  let (outcomes, _) ← desk.rotating library state fun rotator =>
    rotator.rotateAndSave desk.plan (selection.getD config.rotation.target)
      config.apply.applier config.notifications.notifier desk.files
  return outcomes

/-- There was nothing to show. -/
def isSkipped : Outcome → Bool
  | .skipped _ => true
  | .applied _ _ => false

/-- Rotates once, and tells when there was nothing to show. -/
def rotate (desk : Desk) (selection : Option Selection) : ConsoleM Unit := do
  let outcomes ← desk.rotateOnce selection
  if outcomes.all isSkipped then
    sayAll
      ["No wallpapers to rotate through.",
       "Add images to a library folder and run 'periwall scan'."]

/-- Scans the configured folders. -/
def scan (desk : Desk) : ConsoleM Unit := do
  sayAll (desk.plan.folders.map fun folder => "Scanning " ++ folder.text ++ "...")
  let (report, library) ← desk.scanInto (← desk.loadLibrary)
  sayAll (scanLines report library desk.files.library)

/-! ## Looking -/

/-- Lists wallpapers. -/
def list (desk : Desk) (setting : ScopeSetting) : ConsoleM Unit := do
  let library ← desk.loadLibrary
  let scope := setting.scope desk.plan.home
  match scope.candidates library desk.plan.folders with
  | .error error => throw (.scope error)
  | .ok [] => say ("No wallpapers in " ++ scope.text ++ ".")
  | .ok found => sayAll (found.map (wallpaperLine library))

/-- Shows the settings and how far each target has come. -/
def status (desk : Desk) : ConsoleM Unit := do
  let library ← desk.loadLibrary
  let state ← desk.loadState
  sayAll (statusLines desk.plan library state)

/-! ## Deleting -/

/-- What is told of a deletion. -/
def deletionLines (deleted : Rotator.Deleted) : List String :=
  if !deleted.removed then
    [deleted.path.text ++
      " is already gone; it leaves the index on the next rotation or scan"]
  else
    ("✓ Deleted " ++ deleted.path.text) ::
      if deleted.record.isNone then ["(it was not in the library index)"] else []

/-- Deletes the wallpaper of a target.  Where people are not sure they would have to be asked, and
there is nobody to answer. -/
def delete (desk : Desk) (target : Target) (isSure : Bool) : ConsoleM Unit := do
  let library ← desk.loadLibrary
  let state ← desk.loadState
  if (state.target target).current.isNone then
    say ("No wallpaper recorded for " ++ target.name ++ ".")
  else if !isSure then throw .noTerminal
  else
    let (deleted, rotator) ← desk.rotating library state fun rotator =>
      rotator.deleteCurrent target desk.plan.config.apply.applier
    desk.saveLibrary rotator.library
    desk.saveState rotator.state
    sayAll ((deleted.map deletionLines).getD [])

/-! ## Tags and scopes -/

/-- The record that a query stands for. -/
def find (desk : Desk) (library : Library) (query : String) : ConsoleM Wallpaper :=
  match library.find desk.plan.home query with
  | .ok w => return w
  | .error error => throw (.store error)

/-- Puts a wallpaper into a tag. -/
def addTag (desk : Desk) (query tag : String) : ConsoleM Unit := do
  let library ← desk.loadLibrary
  let w ← desk.find library query
  match library.addTag w.id tag with
  | .error error => throw (.store error)
  | .ok library =>
    desk.saveLibrary library
    say ("✓ Added tag '" ++ tag ++ "' to " ++ w.shortId)

/-- Takes a wallpaper out of a tag. -/
def removeTag (desk : Desk) (query tag : String) : ConsoleM Unit := do
  let library ← desk.loadLibrary
  let w ← desk.find library query
  match library.removeTag w.id tag with
  | (true, library) =>
    desk.saveLibrary library
    say ("✓ Removed tag '" ++ tag ++ "' from " ++ w.shortId)
  | (false, _) => say (w.shortId ++ " is not tagged '" ++ tag ++ "'")

/-- Checks what a target is about to be restricted to: a tag may still be empty, but a folder has
to be one of the library's. -/
def checkScope (desk : Desk) (setting : ScopeSetting) : ConsoleM Unit := do
  match setting.tag, setting.folder with
  | some tag, _ =>
    let library ← desk.loadLibrary
    if (library.tag? tag).isNone then
      say ("Warning: no wallpaper is tagged '" ++ tag ++ "' yet")
  | none, some folder =>
    let folder := FilePath.expandTilde desk.plan.home folder
    if !desk.plan.folders.any folder.same then throw (.foreignFolder folder desk.configPath)
  | none, none => return

/-- Restricts a target, which begins a new cycle. -/
def setScope (desk : Desk) (target : Target) (setting : ScopeSetting) : ConsoleM Unit := do
  desk.checkScope setting
  let config := desk.plan.config.setScope target setting
  working fun disk => config.save disk desk.configPath
  let state ← desk.loadState
  desk.saveState (state.updateTarget target TargetState.reset)
  say (target.name ++ " now rotates through " ++ (setting.scope desk.plan.home).text)

/-- The state without what a ledger remembers. -/
def forgetLedger (state : RotationState) : LedgerName → RotationState
  | .target target => state.updateTarget target fun progress =>
    { progress with ledger := Ledger.empty }
  | .library => { state with library := Ledger.empty }

/-- Clears one ledger, or all of them. -/
def clearHistory (desk : Desk) (ledger : Option LedgerName) : ConsoleM Unit := do
  let state ← desk.loadState
  let names := match ledger with
    | some name => [name]
    | none => [.target .home, .target .lock, .library]
  desk.saveState (names.foldl forgetLedger state)
  say "✓ History cleared"

end Desk

/-! ## Watching -/

/-- A daemon's work: what it does at each tick, and which folders it watches. -/
structure Watch where
  desk : Desk
  interval : Interval
  selection : Option Selection
  watcher : Watcher

/-- The title of a message about a failure. -/
def failureTitle : String := "periwall: rotation failed"

/-- Tells people of a failure. -/
def complain (setting : NotificationSetting) (message : String) (console : Console) : Console :=
  { console with
    disk := setting.forward failureTitle message console.disk
    complaints := console.complaints ++ [message] }

namespace Watch

/-- The call at a tick: scans the folders if they changed, and rotates. -/
def call (watch : Watch) : Callback Console := fun rescan console =>
  let work : ConsoleM Unit := do
    if rescan then
      let _ ← watch.desk.scanInto (← watch.desk.loadLibrary)
    let _ ← watch.desk.rotateOnce watch.selection
  let (result, after) := work.run.run console
  let ending := match result with
    | .ok () => CallEnd.done
    | .error failure => CallEnd.failed failure.message
  (ending, watch.watcher.arrivals console.disk after.disk, after)

/-- What is done at a tick when people are told of a failure. -/
def teller (watch : Watch) : Teller Console :=
  complain watch.desk.plan.config.notifications

/-- Makes one tick. -/
def tick (watch : Watch) (daemon : Daemon Console) : Daemon Console :=
  daemon.tick watch.call watch.teller

/-- Makes at most so many ticks, and none once so many lines were printed. -/
def run (watch : Watch) (lines ticks : Nat) (daemon : Daemon Console) : Daemon Console :=
  Daemon.run watch.call watch.teller (fun console => console.printed.length ≥ lines) ticks daemon

/-- Gets ready to watch. -/
def prepare (desk : Desk) (interval : Option String) (selection : Option Selection)
    (watchFolders : Bool) : ConsoleM Watch := do
  let text := interval.getD desk.plan.config.rotation.interval
  match Interval.ofText? text with
  | none => throw (.badInterval text)
  | some parsed =>
    say ("Rotating every " ++ text ++ " (Ctrl-C to stop)")
    let folders := if watchFolders then desk.plan.folders else []
    let watcher :=
      Watcher.start (← get).disk folders desk.plan.config.library.recursive
    return ⟨desk, parsed, selection, watcher⟩

end Watch

/-! ## Running -/

/-- Where the user is at home, and what time it is. -/
structure Setup where
  home : FilePath
  now : Timestamp

/-- Carries out a task; a daemon that is to be left running comes back. -/
def Desk.perform (desk : Desk) : Task → ConsoleM (Option Watch)
  | .rotate selection => do desk.rotate selection; return none
  | .scan => do desk.scan; return none
  | .list setting => do desk.list setting; return none
  | .status => do desk.status; return none
  | .delete target isSure => do desk.delete target isSure; return none
  | .listTags => do sayAll (tagLines (← desk.loadLibrary)); return none
  | .addTag query tag => do desk.addTag query tag; return none
  | .removeTag query tag => do desk.removeTag query tag; return none
  | .showTag tag => do sayAll (taggedLines (← desk.loadLibrary) tag); return none
  | .setScope target setting => do desk.setScope target setting; return none
  | .clearScope target => do desk.setScope target ScopeSetting.unset; return none
  | .clearHistory ledger => do desk.clearHistory ledger; return none
  | .watch interval selection watchFolders => do
    return some (← Watch.prepare desk interval selection watchFolders)

/-- The file of the configuration that a request goes by. -/
def Request.configPath (request : Request) (setup : Setup) : FilePath :=
  request.config.getD (UserFolders.configPath setup.home)

/-- Loads the configuration and carries out what is asked for. -/
def Request.perform (request : Request) (setup : Setup) : ConsoleM (Option Watch) := do
  let path := request.configPath setup
  let config ← working fun disk => Config.load disk setup.home path
  let folder := request.dataFolder.getD (UserFolders.dataFolder setup.home)
  Desk.perform
    ⟨⟨config, setup.home, setup.now⟩, path,
      ⟨folder.child "library.json", folder.child "state.json"⟩⟩ request.task

/-- How a run of the program ended. -/
structure Ending where
  status : Nat
  failure : Option Failure
  console : Console

/-- What a run of the program came to. -/
inductive Course where
  | ended (ending : Ending)
  /-- A daemon is ready to make its first tick. -/
  | watching (watch : Watch) (console : Console)

/-- Tells people that a request failed, in the way that is configured by now. -/
def Request.complain (request : Request) (setup : Setup) (failure : Failure) (console : Console) :
    Console :=
  let (config, disk) := Config.load console.disk setup.home (request.configPath setup)
  let setting := match config with
    | .ok config => config.notifications
    | .error _ => NotificationSetting.initial
  CommandLine.complain setting failure.message { console with disk := disk }

/-- The version of the program. -/
def versionLine : String := "periwall 0.3.0"

/-- Runs the program. -/
def run (setup : Setup) (arguments : List String) (console : Console) : Course :=
  match Request.ofArguments arguments with
  | .error .misuse => .ended ⟨2, none, console⟩
  | .error .version =>
    .ended ⟨0, none, { console with printed := console.printed ++ [versionLine] }⟩
  | .ok request =>
    match (request.perform setup).run.run console with
    | (.ok none, console) => .ended ⟨0, none, console⟩
    | (.ok (some watch), console) => .watching watch console
    | (.error failure, console) =>
      .ended ⟨1, some failure, request.complain setup failure console⟩

/-- The end of a run, where a daemon makes its first tick at once and is stopped as soon as so many
lines were printed, or after so many more ticks. -/
def Course.stopAfter (lines ticks : Nat) : Course → Ending
  | .ended ending => ending
  | .watching watch console =>
    ⟨0, none, (watch.run lines ticks (watch.tick (Daemon.start console))).world⟩

end WallpaperRotation.CommandLine
