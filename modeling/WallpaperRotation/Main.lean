/-
# The command line program

Copies the part of the file system that a run needs into a disk, runs the program on it, and then
makes the changes of the disk in the file system.  A daemon does so at each of its ticks.
-/
import WallpaperRotation.CommandLine.Program
import Std.Time.DateTime.Timestamp

namespace WallpaperRotation.CommandLine

/-! ## Copying -/

/-- Copies what stands at a path into a disk, with all that is below it. -/
partial def copyIn (disk : Disk) (path : FilePath) : IO Disk := do
  try
    let real ← IO.FS.realPath path.text
    let info ← real.metadata
    match info.type with
    | .dir =>
      let entries ← real.readDir
      let start := (disk.edit (.put path (.folder true))).toOption.getD disk
      entries.foldlM (fun disk entry => copyIn disk (path.child entry.fileName)) start
    | .file =>
      let bytes ← IO.FS.readBinFile path.text
      return (disk.edit (.put path (.file bytes info.modified.sec))).toOption.getD disk
    | _ => return disk
  catch _ => return disk

/-- An entry stands as it did before. -/
def isUnchanged : Option Node → Node → Bool
  | some (.folder _), .folder _ => true
  | some (.file old _), .file new _ => old.data = new.data
  | some (.link old), .link new => old = new
  | _, _ => false

/-- Makes in the file system what is different on the second disk. -/
def copyOut (before after : Disk) : IO Unit := do
  for (place, node) in after.nodes do
    if !isUnchanged (before.node? place) node then
      match node with
      | .folder _ => IO.FS.createDirAll (Disk.pathOf place).text
      | .file bytes _ => IO.FS.writeBinFile (Disk.pathOf place).text bytes
      | .link _ => pure ()
  for (place, node) in before.nodes do
    if (after.node? place).isNone then
      match node with
      | .file _ _ => IO.FS.removeFile (Disk.pathOf place).text
      | _ => pure ()

/-! ## Surroundings -/

/-- The time. -/
def currentTime : IO WallpaperRotation.Timestamp := do
  let now ← Std.Time.Timestamp.now
  let nanos := now.toNanosecondsSinceUnixEpoch.val
  return .ofEpoch (nanos / 1000000000) (nanos % 1000000000).toNat

/-- A disk with nothing on it, where relative paths start in the present folder. -/
def emptyDisk : IO Disk := do
  let here := (← IO.currentDir).toString
  let now ← Std.Time.Timestamp.now
  let place := (here.splitOn "/").filter (· ≠ "")
  let disk : Disk := ⟨[], place, now.toSecondsSinceUnixEpoch.val⟩
  return (disk.edit (.put ⟨here⟩ (.folder true))).toOption.getD disk

/-- Random words, enough for one run. -/
def randomWords : IO Words := do
  let bytes ← IO.getRandomBytes 4096
  let word (i : Nat) : UInt32 :=
    (List.range 4).foldl (fun n j =>
      n * 256 + (if h : 4 * i + j < bytes.size then bytes[4 * i + j].toUInt32 else 0)) 0
  return Words.replay ((List.range 1024).map word)

/-- The disk with the documents, and then with the folders of the library, that a request needs. -/
def copyNeeded (setup : Setup) (request : Request) : IO Disk := do
  let dataFolder := request.dataFolder.getD (UserFolders.dataFolder setup.home)
  let start ← copyIn (← emptyDisk) (UserFolders.configPath setup.home)
  let start ← copyIn start (setup.home.join ⟨".config/user-dirs.dirs"⟩)
  let disk ← [request.configPath setup, dataFolder].foldlM copyIn start
  match (Config.load disk setup.home (request.configPath setup)).1 with
  | .error _ => return disk
  | .ok config => (config.folders setup.home).foldlM copyIn disk

/-! ## Running -/

/-- Prints what was printed on a console. -/
def showConsole (console : Console) : IO Unit := do
  for line in console.printed do
    IO.println line
  for complaint in console.complaints do
    IO.eprintln ("Error: " ++ complaint)

/-- Waits for so many seconds. -/
def wait (seconds : Nat) : IO Unit := do
  for _ in [0:seconds] do
    IO.sleep 1000

/-- Lets a daemon make its ticks, one after the other. -/
partial def keepWatching (setup : Setup) (request : Request) (watch : Watch)
    (daemon : Daemon Console) : IO Unit := do
  let disk ← copyNeeded setup request
  let old := daemon.world.disk
  let changes := watch.watcher.arrivals old disk ++
    watch.watcher.departures old disk
  let now ← currentTime
  let plan := { watch.desk.plan with now := now }
  let watch := { watch with desk := { watch.desk with plan := plan } }
  let world : Console := ⟨disk, ← randomWords, [], []⟩
  let ready := { daemon with world := world }
  let daemon := watch.tick (ready.notice changes)
  copyOut disk daemon.world.disk
  showConsole daemon.world
  wait watch.interval.seconds
  keepWatching setup request watch daemon

/-- Runs the program with arguments. -/
def runProgram (arguments : List String) : IO UInt32 := do
  let home := (← IO.getEnv "HOME").getD "/"
  let setup : Setup := ⟨⟨home⟩, ← currentTime⟩
  match Request.ofArguments arguments with
  | .error .misuse => return 2
  | .error .version =>
    IO.println versionLine
    return 0
  | .ok request =>
    let disk ← copyNeeded setup request
    match run setup arguments ⟨disk, ← randomWords, [], []⟩ with
    | .ended ending =>
      copyOut disk ending.console.disk
      showConsole ending.console
      return UInt32.ofNat ending.status
    | .watching watch console =>
      copyOut disk console.disk
      showConsole console
      keepWatching setup request watch (Daemon.start console)
      return 0

end WallpaperRotation.CommandLine

/-- The program. -/
def main (arguments : List String) : IO UInt32 :=
  WallpaperRotation.CommandLine.runProgram arguments
