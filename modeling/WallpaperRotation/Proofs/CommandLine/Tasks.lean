/-
# Tasks as processes

The steps of each task and of a daemon's tick: which documents are loaded and saved, in which order,
and what is saved.  The program's tasks do just these steps.
-/
import WallpaperRotation.Proofs.CommandLine.Process

namespace WallpaperRotation.CommandLine

open Process

/-- Where the documents are. -/
def Desk.paths (desk : Desk) : Document → FilePath
  | .config => desk.configPath
  | .library => desk.files.library
  | .rotationState => desk.files.state

/-! ## Steps of tasks -/

namespace Steps

/-- Loads the library. -/
def loadLibrary (desk : Desk) : Process Library :=
  .load .library fun stored => .ended (Library.ofStored desk.files.library stored)

/-- Loads the state of the rotation. -/
def loadState (desk : Desk) : Process RotationState :=
  .load .rotationState fun stored => .ended (RotationState.ofStored desk.files.state stored)

/-- Scans the configured folders into a library, and keeps it. -/
def scanInto (desk : Desk) (library : Library) : Process (ScanReport × Library) := do
  let setting := desk.plan.config.library
  let (report, library) ← look fun disk =>
    (library.scan disk desk.plan.folders setting.recursive setting.conflict).mapError
      fun (folder, reason) => Failure.unlisted folder reason
  store .library library.text
  return (report, library)

/-- Loads the library; one without records is scanned first. -/
def loadOrScan (desk : Desk) : Process Library := do
  let library ← loadLibrary desk
  if library.wallpapers = [] then return (← scanInto desk library).2
  return library

/-- Keeps what a rotation reached.  A failure to rotate is told rather than one to save. -/
def keep (result : Except Failure (List Outcome)) (rotator : Rotator) : Process (List Outcome) :=
  .save .library rotator.library.text fun
    | .error failure => .ended (result >>= fun _ => .error failure)
    | .ok () => .save .rotationState rotator.state.text fun saved =>
      .ended (result >>= fun outcomes => saved.map fun _ => outcomes)

/-- Rotates, and keeps what was reached even when a target failed. -/
def rotateAndSave (desk : Desk) (selection : Option Selection) (library : Library)
    (state : RotationState) : Process (List Outcome) := do
  let (result, rotator) ← Process.rotating library state fun rotator =>
    let (result, rotator) := (desk.rotation selection).make rotator
    (.ok result, rotator)
  keep result rotator

/-- Rotates once, and tells what came of it. -/
def rotateOnce (desk : Desk) (selection : Option Selection) : Process (List Outcome) := do
  let library ← loadOrScan desk
  let state ← loadState desk
  rotateAndSave desk selection library state

/-- Rotates once. -/
def rotate (desk : Desk) (selection : Option Selection) : Process Unit := do
  let _ ← rotateOnce desk selection

/-- Scans the configured folders. -/
def scan (desk : Desk) : Process Unit := do
  let library ← loadLibrary desk
  let _ ← scanInto desk library

/-- Deletes the wallpaper of a target. -/
def delete (desk : Desk) (target : Target) (isSure : Bool) : Process Unit := do
  let library ← loadLibrary desk
  let state ← loadState desk
  if (state.target target).current.isNone then return ()
  else if !isSure then .ended (.error .noTerminal)
  else
    let (_, rotator) ← Process.rotating library state fun rotator =>
      rotator.deleteCurrent target desk.plan.config.apply.applier
    store .library rotator.library.text
    store .rotationState rotator.state.text

/-- The record that a query stands for. -/
def find (desk : Desk) (library : Library) (query : String) : Process Wallpaper :=
  .ended ((library.find desk.plan.home query).mapError .store)

/-- Puts a wallpaper into a tag. -/
def addTag (desk : Desk) (query tag : String) : Process Unit := do
  let library ← loadLibrary desk
  let w ← find desk library query
  match library.addTag w.id tag with
  | .error error => .ended (.error (.store error))
  | .ok library => store .library library.text

/-- Takes a wallpaper out of a tag. -/
def removeTag (desk : Desk) (query tag : String) : Process Unit := do
  let library ← loadLibrary desk
  let w ← find desk library query
  match library.removeTag w.id tag with
  | (true, library) => store .library library.text
  | (false, _) => return ()

/-- Checks what a target is about to be restricted to. -/
def checkScope (desk : Desk) (setting : ScopeSetting) : Process Unit := do
  match setting.tag, setting.folder with
  | some _, _ => let _ ← loadLibrary desk
  | none, some folder =>
    let folder := FilePath.expandTilde desk.plan.home folder
    if !desk.plan.folders.any folder.same then
      .ended (.error (.foreignFolder folder desk.configPath))
  | none, none => return

/-- Restricts a target, which begins a new cycle. -/
def setScope (desk : Desk) (target : Target) (setting : ScopeSetting) : Process Unit := do
  checkScope desk setting
  store .config (desk.plan.config.setScope target setting).text
  let state ← loadState desk
  store .rotationState (state.updateTarget target TargetState.reset).text

/-- Clears one ledger, or all of them. -/
def clearHistory (desk : Desk) (ledger : Option LedgerName) : Process Unit := do
  let state ← loadState desk
  let names := match ledger with
    | some name => [name]
    | none => [.target .home, .target .lock, .library]
  store .rotationState (names.foldl Desk.forgetLedger state).text

/-- Gets ready to watch. -/
def prepare (desk : Desk) (interval : Option String) (selection : Option Selection)
    (watchFolders : Bool) : Process Watch :=
  let text := interval.getD desk.plan.config.rotation.interval
  match Interval.ofText? text with
  | none => .ended (.error (.badInterval text))
  | some parsed =>
    let folders := if watchFolders then desk.plan.folders else []
    look fun disk => .ok ⟨desk, parsed, selection,
      Watcher.start disk folders desk.plan.config.library.recursive⟩

/-- Lists wallpapers. -/
def list (desk : Desk) (setting : ScopeSetting) : Process Unit := do
  let library ← loadLibrary desk
  match (setting.scope desk.plan.home).candidates library desk.plan.folders with
  | .error error => .ended (.error (.scope error))
  | .ok _ => return ()

/-- Shows how far each target has come. -/
def status (desk : Desk) : Process Unit := do
  let _ ← loadLibrary desk
  let _ ← loadState desk

/-- Carries out a task. -/
def ofTask (desk : Desk) : Task → Process (Option Watch)
  | .rotate selection => do rotate desk selection; return none
  | .scan => do scan desk; return none
  | .list setting => do list desk setting; return none
  | .status => do status desk; return none
  | .delete target isSure => do delete desk target isSure; return none
  | .listTags => do let _ ← loadLibrary desk; return none
  | .addTag query tag => do addTag desk query tag; return none
  | .removeTag query tag => do removeTag desk query tag; return none
  | .showTag _ => do let _ ← loadLibrary desk; return none
  | .setScope target setting => do setScope desk target setting; return none
  | .clearScope target => do setScope desk target ScopeSetting.unset; return none
  | .clearHistory ledger => do clearHistory desk ledger; return none
  | .watch interval selection watchFolders => do
    return some (← prepare desk interval selection watchFolders)

/-- Makes a tick: scans the folders if they changed, and rotates. -/
def ofTick (watch : Watch) (rescan : Bool) : Process Unit :=
  if rescan then do
    let library ← loadLibrary watch.desk
    let _ ← scanInto watch.desk library
    rotate watch.desk watch.selection
  else rotate watch.desk watch.selection

/-- Loads the configuration, which is written out where there is none. -/
def loadConfig (home path : FilePath) : Process Config := do
  let folder ← look fun disk => .ok (UserFolders.wallpapers disk home)
  .load .config fun
    | .error failure => .ended (.error failure)
    | .ok (some text) =>
      match Config.ofText? folder text with
      | some config => .ended (.ok config)
      | none => .ended (.error (.unparsed .config path .toml))
    | .ok none => do
      store .config (Config.initial folder).text
      return Config.initial folder

end Steps

/-! ## The program follows the steps -/

section Follows

variable {A B : Type} {paths : Document → FilePath} {part : ConsoleM A}

/-- What a part prints before it does something makes no difference. -/
theorem Follows.after_sayAll {process : Process A} (h : Follows paths part process)
    (texts : List String) : Follows paths (sayAll texts >>= fun _ => part) process :=
  (follows_sayAll texts).bind fun _ => h

/-- What a part prints before it does something makes no difference. -/
theorem Follows.after_say {process : Process A} (h : Follows paths part process) (text : String) :
    Follows paths (say text >>= fun _ => part) process :=
  (follows_say text).bind fun _ => h

/-- What a part prints in the end makes no difference. -/
theorem Follows.then_say {part : ConsoleM Unit} {process : Process Unit}
    (h : Follows paths part process) (text : String) :
    Follows paths (part >>= fun _ => say text) process := by
  intro console
  obtain ⟨printed, hpart⟩ := h console
  rw [ExceptT.run_bind, StateT.run_bind, hpart]
  obtain ⟨result, words, disk⟩ := process.alone paths console.words console.disk
  cases result with
  | error failure => exact ⟨printed, rfl⟩
  | ok value => exact ⟨_, rfl⟩

/-- What a part prints in the end makes no difference. -/
theorem Follows.then_sayAll {part : ConsoleM Unit} {process : Process Unit}
    (h : Follows paths part process) (texts : List String) :
    Follows paths (part >>= fun _ => sayAll texts) process := by
  intro console
  obtain ⟨printed, hpart⟩ := h console
  rw [ExceptT.run_bind, StateT.run_bind, hpart]
  obtain ⟨result, words, disk⟩ := process.alone paths console.words console.disk
  cases result with
  | error failure => exact ⟨printed, rfl⟩
  | ok value =>
    exact run_sayAll texts { console with words := words, disk := disk, printed := printed }

end Follows

namespace Desk

variable {desk : Desk}

/-- The step comes to the library on the disk. -/
theorem alone_loadLibrary (desk : Desk) (words : Words) (disk : Disk) :
    (Steps.loadLibrary desk).alone desk.paths words disk =
      (Library.load disk desk.files.library, words, disk) := by
  rw [Library.load_eq_ofStored]
  rfl

/-- The step comes to the state on the disk. -/
theorem alone_loadState (desk : Desk) (words : Words) (disk : Disk) :
    (Steps.loadState desk).alone desk.paths words disk =
      (RotationState.load disk desk.files.state, words, disk) := by
  rw [RotationState.load_eq_ofStored]
  rfl

/-- Loading the library is a step. -/
theorem follows_loadLibrary (desk : Desk) :
    Follows desk.paths desk.loadLibrary (Steps.loadLibrary desk) := by
  intro console
  obtain ⟨printed, hlook⟩ := follows_reading desk.paths
    (fun disk => Library.load disk desk.files.library) console
  refine ⟨printed, hlook.trans ?_⟩
  rw [look, alone_work, desk.alone_loadLibrary]
  rfl

/-- Loading the state is a step. -/
theorem follows_loadState (desk : Desk) :
    Follows desk.paths desk.loadState (Steps.loadState desk) := by
  intro console
  obtain ⟨printed, hlook⟩ := follows_reading desk.paths
    (fun disk => RotationState.load disk desk.files.state) console
  refine ⟨printed, hlook.trans ?_⟩
  rw [look, alone_work, desk.alone_loadState]
  rfl

/-- Keeping the library is a step. -/
theorem follows_saveLibrary (desk : Desk) (library : Library) :
    Follows desk.paths (desk.saveLibrary library) (store .library library.text) :=
  follows_saving .library library.text

/-- Keeping the state is a step. -/
theorem follows_saveState (desk : Desk) (state : RotationState) :
    Follows desk.paths (desk.saveState state) (store .rotationState state.text) :=
  follows_saving .rotationState state.text

/-- Scanning follows its steps. -/
theorem follows_scanInto (desk : Desk) (library : Library) :
    Follows desk.paths (desk.scanInto library) (Steps.scanInto desk library) := by
  intro console
  unfold scanInto Steps.scanInto
  dsimp only
  rw [run_bind run_get, alone_bind, look, alone_work, alone_ended]
  dsimp only
  cases library.scan console.disk desk.plan.folders desk.plan.config.library.recursive
      desk.plan.config.library.conflict with
  | error fault => exact ⟨console.printed, rfl⟩
  | ok scanned =>
    exact ((follows_saveLibrary desk scanned.2).bind fun _ => follows_pure scanned) console

/-- Loading or scanning the library follows its steps. -/
theorem follows_loadOrScan (desk : Desk) :
    Follows desk.paths desk.loadOrScan (Steps.loadOrScan desk) := by
  refine (follows_loadLibrary desk).bind fun library => ?_
  by_cases hrecords : library.wallpapers = []
  · simp only [if_pos hrecords]
    exact (follows_scanInto desk library).bind fun scanned => follows_pure scanned.2
  · simp only [if_neg hrecords]
    exact follows_pure library

/-- The steps that keep a rotation come to what the rotator comes to. -/
theorem alone_keep (desk : Desk) (result : Except Failure (List Outcome)) (rotator : Rotator) :
    (Steps.keep result rotator).alone desk.paths rotator.words rotator.disk =
      let (saved, kept) := rotator.save desk.files
      (result >>= fun outcomes => saved.map fun _ => outcomes, kept.words, kept.disk) := by
  have hlibrary : rotator.disk.saveText .library (desk.paths .library) rotator.library.text =
      rotator.library.save rotator.disk desk.files.library := rfl
  unfold Steps.keep Rotator.save
  rw [alone_save, hlibrary]
  obtain ⟨kept, disk⟩ := rotator.library.save rotator.disk desk.files.library
  cases kept with
  | error failure => rfl
  | ok done => rfl

/-- Rotating and keeping what was reached are its two parts. -/
theorem makeAndSave_eq (rotation : Rotation) (files : Rotator.DataFiles) (rotator : Rotator) :
    rotation.makeAndSave files rotator =
      (((rotation.make rotator).1 >>= fun outcomes =>
          ((rotation.make rotator).2.save files).1.map fun _ => outcomes),
        ((rotation.make rotator).2.save files).2) := by
  unfold Rotation.makeAndSave Rotator.rotateAndSave Rotation.make
  obtain ⟨result, after⟩ :=
    rotator.rotate rotation.plan rotation.selection rotation.applier rotation.notifier
  dsimp only
  obtain ⟨saved, kept⟩ := after.save files
  cases result <;> cases saved <;> rfl

/-- The steps of a rotation that is kept come to what the rotator comes to. -/
theorem alone_rotateAndSave (desk : Desk) (selection : Option Selection) (library : Library)
    (state : RotationState) (words : Words) (disk : Disk) :
    (Steps.rotateAndSave desk selection library state).alone desk.paths words disk =
      let (result, rotator) := (desk.rotation selection).makeAndSave desk.files
        ⟨library, state, words, disk, []⟩
      (result, rotator.words, rotator.disk) := by
  unfold Steps.rotateAndSave
  rw [alone_bind, Process.rotating, alone_work, makeAndSave_eq]
  exact alone_keep desk _ _

/-- Rotating once follows its steps. -/
theorem follows_rotateOnce (desk : Desk) (selection : Option Selection) :
    Follows desk.paths (desk.rotateOnce selection) (Steps.rotateOnce desk selection) := by
  refine (follows_loadOrScan desk).bind fun library => ?_
  refine (follows_loadState desk).bind fun state => ?_
  intro console
  obtain ⟨printed, hrotating⟩ := desk.run_rotating library state
    (fun rotator => (desk.rotation selection).makeAndSave desk.files rotator) console
  refine ⟨printed, ?_⟩
  have hrotate : (fun rotator : Rotator => rotator.rotateAndSave desk.plan
      (selection.getD desk.plan.config.rotation.target) desk.plan.config.apply.applier
      desk.plan.config.notifications.notifier desk.files) =
      fun rotator => (desk.rotation selection).makeAndSave desk.files rotator := rfl
  dsimp only
  rw [hrotate, alone_rotateAndSave, ExceptT.run_bind, StateT.run_bind, hrotating]
  obtain ⟨result, rotator⟩ := (desk.rotation selection).makeAndSave desk.files
    ⟨library, state, console.words, console.disk, []⟩
  cases result <;> rfl

/-- Deleting follows its steps. -/
theorem follows_delete (desk : Desk) (target : Target) (isSure : Bool) :
    Follows desk.paths (desk.delete target isSure) (Steps.delete desk target isSure) := by
  refine (follows_loadLibrary desk).bind fun library => ?_
  refine (follows_loadState desk).bind fun state => ?_
  by_cases hnone : (state.target target).current.isNone = true
  · simp only [if_pos hnone]
    exact follows_say _
  · by_cases hsure : (!isSure) = true
    · simp only [if_neg hnone, if_pos hsure]
      exact follows_throw .noTerminal
    · simp only [if_neg hnone, if_neg hsure]
      refine (follows_rotating desk library state _).bind fun deleted => ?_
      refine (follows_saveLibrary desk deleted.2.library).bind fun _ => ?_
      exact (follows_saveState desk deleted.2.state).then_sayAll _

/-- Finding a record needs no document. -/
theorem follows_find (desk : Desk) (library : Library) (query : String) :
    Follows desk.paths (desk.find library query) (Steps.find desk library query) := by
  unfold find Steps.find
  cases library.find desk.plan.home query with
  | error error => exact follows_throw (.store error)
  | ok w => exact follows_pure w

/-- Tagging follows its steps. -/
theorem follows_addTag (desk : Desk) (query tag : String) :
    Follows desk.paths (desk.addTag query tag) (Steps.addTag desk query tag) := by
  refine (follows_loadLibrary desk).bind fun library => ?_
  refine (follows_find desk library query).bind fun w => ?_
  cases library.addTag w.id tag with
  | error error => exact follows_throw (.store error)
  | ok tagged => exact (follows_saveLibrary desk tagged).then_say _

/-- Untagging follows its steps. -/
theorem follows_removeTag (desk : Desk) (query tag : String) :
    Follows desk.paths (desk.removeTag query tag) (Steps.removeTag desk query tag) := by
  refine (follows_loadLibrary desk).bind fun library => ?_
  refine (follows_find desk library query).bind fun w => ?_
  obtain ⟨held, untagged⟩ := library.removeTag w.id tag
  cases held with
  | true => exact (follows_saveLibrary desk untagged).then_say _
  | false => exact follows_say _

/-- Checking a scope follows its steps. -/
theorem follows_checkScope (desk : Desk) (setting : ScopeSetting) :
    Follows desk.paths (desk.checkScope setting) (Steps.checkScope desk setting) := by
  unfold checkScope Steps.checkScope
  cases setting.tag with
  | some tag =>
    refine (follows_loadLibrary desk).bind fun library => ?_
    by_cases hnone : (library.tag? tag).isNone = true
    · simp only [if_pos hnone]
      exact follows_say _
    · simp only [if_neg hnone]
      exact follows_pure ()
  | none =>
    cases setting.folder with
    | none => exact follows_pure ()
    | some folder =>
      dsimp only
      split
      · exact follows_throw _
      · exact follows_pure ()

/-- Restricting a target follows its steps. -/
theorem follows_setScope (desk : Desk) (target : Target) (setting : ScopeSetting) :
    Follows desk.paths (desk.setScope target setting) (Steps.setScope desk target setting) := by
  refine (follows_checkScope desk setting).bind fun _ => ?_
  refine (follows_saving .config _).bind fun _ => ?_
  refine (follows_loadState desk).bind fun state => ?_
  exact (follows_saveState desk _).then_say _

/-- Clearing ledgers follows its steps. -/
theorem follows_clearHistory (desk : Desk) (ledger : Option LedgerName) :
    Follows desk.paths (desk.clearHistory ledger) (Steps.clearHistory desk ledger) := by
  refine (follows_loadState desk).bind fun state => ?_
  exact (follows_saveState desk _).then_say _

/-- Listing wallpapers follows its steps. -/
theorem follows_list (desk : Desk) (setting : ScopeSetting) :
    Follows desk.paths (desk.list setting) (Steps.list desk setting) := by
  refine (follows_loadLibrary desk).bind fun library => ?_
  dsimp only
  cases (setting.scope desk.plan.home).candidates library desk.plan.folders with
  | error error => exact follows_throw _
  | ok found =>
    cases found with
    | nil => exact follows_say _
    | cons w found => exact follows_sayAll _

/-- Showing the settings follows its steps. -/
theorem follows_status (desk : Desk) :
    Follows desk.paths desk.status (Steps.status desk) := by
  refine (follows_loadLibrary desk).bind fun library => ?_
  refine (follows_loadState desk).bind fun state => ?_
  exact follows_sayAll _

/-- Getting ready to watch only looks at the disk. -/
theorem follows_prepare (desk : Desk) (interval : Option String) (selection : Option Selection)
    (watchFolders : Bool) :
    Follows desk.paths (Watch.prepare desk interval selection watchFolders)
      (Steps.prepare desk interval selection watchFolders) := by
  unfold Watch.prepare Steps.prepare
  dsimp only
  cases Interval.ofText? (interval.getD desk.plan.config.rotation.interval) with
  | none => exact follows_throw _
  | some parsed =>
    refine Follows.after_say ?_ _
    intro console
    exact ⟨console.printed, rfl⟩

/-- Rotating follows its steps. -/
theorem follows_rotate (desk : Desk) (selection : Option Selection) :
    Follows desk.paths (desk.rotate selection) (Steps.rotate desk selection) := by
  refine (follows_rotateOnce desk selection).bind fun outcomes => ?_
  by_cases hskipped : outcomes.all isSkipped = true
  · simp only [if_pos hskipped]
    exact follows_sayAll _
  · simp only [if_neg hskipped]
    exact follows_pure ()

/-- Scanning follows its steps. -/
theorem follows_scan (desk : Desk) : Follows desk.paths desk.scan (Steps.scan desk) := by
  refine Follows.after_sayAll ?_ _
  refine (follows_loadLibrary desk).bind fun library => ?_
  exact (follows_scanInto desk library).bind fun scanned => follows_sayAll _

/-- Every task follows its steps. -/
theorem follows_perform (desk : Desk) (task : Task) :
    Follows desk.paths (desk.perform task) (Steps.ofTask desk task) := by
  have hnone {part : ConsoleM Unit} {process : Process Unit}
      (h : Follows desk.paths part process) :
      Follows desk.paths (part >>= fun _ => pure (none : Option Watch))
        (process >>= fun _ => pure none) :=
    h.bind fun _ => follows_pure none
  cases task with
  | rotate selection => exact hnone (follows_rotate desk selection)
  | scan => exact hnone (follows_scan desk)
  | list setting => exact hnone (follows_list desk setting)
  | status => exact hnone (follows_status desk)
  | delete target isSure => exact hnone (follows_delete desk target isSure)
  | listTags =>
    exact (follows_loadLibrary desk).bind fun library => (follows_pure none).after_sayAll _
  | addTag query tag => exact hnone (follows_addTag desk query tag)
  | removeTag query tag => exact hnone (follows_removeTag desk query tag)
  | showTag tag =>
    exact (follows_loadLibrary desk).bind fun library => (follows_pure none).after_sayAll _
  | setScope target setting => exact hnone (follows_setScope desk target setting)
  | clearScope target => exact hnone (follows_setScope desk target ScopeSetting.unset)
  | clearHistory ledger => exact hnone (follows_clearHistory desk ledger)
  | watch interval selection watchFolders =>
    exact (follows_prepare desk interval selection watchFolders).bind fun watch =>
      follows_pure (some watch)

end Desk

/-- A tick follows its steps, and fails when they do. -/
theorem Watch.call_eq (watch : Watch) (rescan : Bool) (console : Console) :
    ((watch.call rescan console).1 =
      match ((Steps.ofTick watch rescan).alone watch.desk.paths console.words console.disk).1 with
      | .ok () => .done
      | .error failure => .failed failure.message) ∧
    (watch.call rescan console).2.2.disk =
      ((Steps.ofTick watch rescan).alone watch.desk.paths console.words console.disk).2.2 := by
  have hrotate : Follows watch.desk.paths
      (do let _ ← watch.desk.rotateOnce watch.selection)
      (Steps.rotate watch.desk watch.selection) :=
    (watch.desk.follows_rotateOnce watch.selection).bind fun _ => follows_pure ()
  have hwork : Follows watch.desk.paths (do
      if rescan then
        let _ ← watch.desk.scanInto (← watch.desk.loadLibrary)
      let _ ← watch.desk.rotateOnce watch.selection) (Steps.ofTick watch rescan) := by
    cases rescan with
    | false => exact hrotate
    | true =>
      exact watch.desk.follows_loadLibrary.bind fun library =>
        (watch.desk.follows_scanInto library).bind fun _ => hrotate
  obtain ⟨printed, hrun⟩ := hwork console
  unfold call
  dsimp only
  rw [hrun]
  exact ⟨rfl, rfl⟩

/-- Loading the configuration follows its steps. -/
theorem follows_loadConfig (home path : FilePath) {paths : Document → FilePath}
    (hpath : paths .config = path) :
    Follows paths (working fun disk => Config.load disk home path)
      (Steps.loadConfig home path) := by
  intro console
  refine ⟨console.printed, ?_⟩
  unfold working Steps.loadConfig
  rw [run_bind run_get, alone_bind, look, alone_work, alone_ended]
  dsimp only
  rw [alone_load, hpath]
  unfold Config.load
  cases console.disk.documentText? .config path with
  | error failure => rfl
  | ok text? =>
    cases text? with
    | none =>
      unfold Config.save
      dsimp only
      rw [alone_bind, store, alone_save, hpath]
      obtain ⟨reply, disk⟩ := console.disk.saveText .config path
        (Config.initial (UserFolders.wallpapers console.disk home)).text
      cases reply <;> rfl
    | some text =>
      dsimp only
      cases Config.ofText? (UserFolders.wallpapers console.disk home) text <;> rfl

/-! ## Requests -/

/-- Where a request has its documents. -/
def Request.paths (request : Request) (setup : Setup) : Document → FilePath
  | .config => request.configPath setup
  | .library => (request.dataFolder.getD (UserFolders.dataFolder setup.home)).child "library.json"
  | .rotationState =>
    (request.dataFolder.getD (UserFolders.dataFolder setup.home)).child "state.json"

/-- What a request goes by under a configuration. -/
def Request.desk (request : Request) (setup : Setup) (config : Config) : Desk :=
  ⟨⟨config, setup.home, setup.now⟩, request.paths setup .config,
    ⟨request.paths setup .library, request.paths setup .rotationState⟩⟩

/-- A request finds its documents where its desk does. -/
theorem Request.paths_desk (request : Request) (setup : Setup) (config : Config) :
    (request.desk setup config).paths = request.paths setup := by
  funext document
  cases document <;> rfl

/-- The desk of a request has the configuration where the request has it. -/
theorem Request.configPath_desk (request : Request) (setup : Setup) (config : Config) :
    (request.desk setup config).configPath = request.paths setup .config :=
  rfl

/-- The desk of a request has the state where the request has it. -/
theorem Request.state_desk (request : Request) (setup : Setup) (config : Config) :
    (request.desk setup config).files.state = request.paths setup .rotationState :=
  rfl

/-- Loads the configuration and carries out what is asked for. -/
def Steps.ofRequest (setup : Setup) (request : Request) : Process (Option Watch) := do
  let config ← loadConfig setup.home (request.paths setup .config)
  ofTask (request.desk setup config) request.task

/-- Every request follows its steps. -/
theorem Request.follows_perform (request : Request) (setup : Setup) :
    Follows (request.paths setup) (request.perform setup) (Steps.ofRequest setup request) := by
  refine (follows_loadConfig setup.home (request.paths setup .config) rfl).bind fun config => ?_
  rw [← request.paths_desk setup config]
  exact (request.desk setup config).follows_perform request.task

/-- Working on the disk changes nothing else. -/
theorem run_working {A : Type} (work : Disk → OnDisk A) (console : Console) :
    (working work).run.run console =
      ((work console.disk).1, { console with disk := (work console.disk).2 }) := by
  unfold working
  rw [run_bind run_get]
  dsimp only
  obtain ⟨result, disk⟩ := work console.disk
  cases result <;> rfl

section Perform

variable {setup : Setup} {console : Console} {loaded : Disk}

/-- A request fails where the configuration cannot be loaded. -/
theorem Request.run_perform_of_error (request : Request) {failure : Failure}
    (h : Config.load console.disk setup.home (request.paths setup .config) =
      (.error failure, loaded)) :
    (request.perform setup).run.run console =
      (.error failure, { console with disk := loaded }) := by
  change ((working fun disk => Config.load disk setup.home (request.paths setup .config)) >>=
    fun config => (request.desk setup config).perform request.task).run.run console = _
  rw [ExceptT.run_bind, StateT.run_bind, run_working, h]
  rfl

/-- A request goes through the steps of its task where the configuration is loaded. -/
theorem Request.run_perform (request : Request) {config : Config}
    (h : Config.load console.disk setup.home (request.paths setup .config) =
      (.ok config, loaded)) :
    ∃ printed, (request.perform setup).run.run console =
      let (result, words, disk) := (Steps.ofTask (request.desk setup config) request.task).alone
        (request.paths setup) console.words loaded
      (result, { console with words := words, disk := disk, printed := printed }) := by
  obtain ⟨printed, hrun⟩ := (request.desk setup config).follows_perform request.task
    { console with disk := loaded }
  rw [request.paths_desk] at hrun
  refine ⟨printed, Eq.trans ?_ hrun⟩
  change ((working fun disk => Config.load disk setup.home (request.paths setup .config)) >>=
    fun config => (request.desk setup config).perform request.task).run.run console = _
  rw [ExceptT.run_bind, StateT.run_bind, run_working, h]
  rfl

end Perform

end WallpaperRotation.CommandLine
