/-
# Configurations as documents

A configuration is kept as a TOML document with a section for each part.  A section or a key that
is missing has its default; keys of other names do not count.  A section may also be given as an
array of its values in order, and a choice as a table of its one name.
-/
import WallpaperRotation.Config.Basic
import WallpaperRotation.Toml.Printer
import WallpaperRotation.Toml.Reader

namespace WallpaperRotation

namespace Toml

/-! ## Fields of sections -/

/-- The values that a section gives to its keys, in the order of the keys.  A moment counts as a
section without keys. -/
def Item.fields? (keys : List String) : Item → Option (List (Option Item))
  | .table _ members => some (keys.map fun key => lookUp key members)
  | .array elements => some ((List.range keys.length).map fun i => elements[i]?)
  | .tables elements => some ((List.range keys.length).map fun i => elements[i]?)
  | .moment => some (keys.map fun _ => none)
  | _ => none

/-- A string. -/
def Item.string? : Item → Option String
  | .string text => some text
  | _ => none

/-- A truth value. -/
def Item.boolean? : Item → Option Bool
  | .boolean b => some b
  | _ => none

/-- An array of strings. -/
def Item.strings? : Item → Option (List String)
  | .array elements => elements.mapM Item.string?
  | _ => none

/-- The item holds nothing. -/
def Item.isVoid : Item → Bool
  | .array elements => elements.isEmpty
  | .table _ members => members.isEmpty
  | .tables elements => elements.isEmpty
  | _ => false

/-- The name of a choice: a string, or the one key of a table that holds nothing more. -/
def Item.choice? : Item → Option String
  | .string text => some text
  | .table _ [(name, item)] => if item.isVoid then some name else none
  | _ => none

/-- A field's value: what is given, if it fits, or else a default. -/
def given {α : Type} (default : α) (convert : Item → Option α) : Option Item → Option α
  | none => some default
  | some item => convert item

/-- The value of a field that has to be given. -/
def required {α : Type} (convert : Item → Option α) : Option Item → Option α
  | none => none
  | some item => convert item

end Toml

open Toml

/-! ## Choices -/

/-- The policy of a name. -/
def Policy.ofName? : String → Option Policy
  | "reject" => some .reject
  | "replace" => some .replace
  | "version" => some .version
  | _ => none

/-- The name of a policy. -/
def Policy.name : Policy → String
  | .reject => "reject"
  | .replace => "replace"
  | .version => "version"

/-- The mode of a name. -/
def Mode.ofName? : String → Option Mode
  | "sequential" => some .sequential
  | "random" => some .random
  | _ => none

/-- The name of a mode. -/
def Mode.name : Mode → String
  | .sequential => "sequential"
  | .random => "random"

/-- The target of a name. -/
def Target.ofName? : String → Option Target
  | "home" => some .home
  | "lock" => some .lock
  | _ => none

/-- The selection of a name. -/
def Selection.ofName? : String → Option Selection
  | "home" => some .home
  | "lock" => some .lock
  | "both" => some .both
  | _ => none

/-- The name of a selection. -/
def Selection.name : Selection → String
  | .home => "home"
  | .lock => "lock"
  | .both => "both"

/-! ## Reading -/

/-- A path. -/
def pathOf? (item : Item) : Option FilePath :=
  item.string?.map FilePath.mk

/-- The section on the library. -/
def LibrarySetting.ofItem? (item : Item) : Option LibrarySetting := do
  match ← item.fields? ["folders", "recursive", "conflict", "validate_before_rotate"] with
  | [folders, recursive, conflict, validate] =>
    some
      { folders := (← required Item.strings? folders).map FilePath.mk
        recursive := ← given true Item.boolean? recursive
        conflict := ← given .version (fun item => item.choice?.bind Policy.ofName?) conflict
        validateBeforeRotate := ← given true Item.boolean? validate }
  | _ => none

/-- The section on the rotation. -/
def RotationSetting.ofItem? (item : Item) : Option RotationSetting := do
  match ← item.fields? ["mode", "target", "interval"] with
  | [mode, target, interval] =>
    some
      { mode := ← given .random (fun item => item.choice?.bind Mode.ofName?) mode
        target := ← given .home (fun item => item.choice?.bind Selection.ofName?) target
        interval := ← given "30m" Item.string? interval }
  | _ => none

/-- The section on what a target is restricted to. -/
def ScopeSetting.ofItem? (item : Item) : Option ScopeSetting := do
  match ← item.fields? ["tag", "folder"] with
  | [tag, folder] =>
    some
      { tag := ← given none (fun item => item.string?.map some) tag
        folder := ← given none (fun item => (pathOf? item).map some) folder }
  | _ => none

/-- The section on the commands. -/
def ApplySetting.ofItem? (item : Item) : Option ApplySetting := do
  match ← item.fields? ["home", "lock", "clear"] with
  | [home, lock, clear] =>
    some
      { home := ← given [] Item.strings? home
        lock := ← given [] Item.strings? lock
        clear := ← given [] Item.strings? clear }
  | _ => none

/-- The section on notifications. -/
def NotificationSetting.ofItem? (item : Item) : Option NotificationSetting := do
  match ← item.fields? ["enabled", "command"] with
  | [enabled, command] =>
    some
      { enabled := ← required Item.boolean? enabled
        command := ← given [] Item.strings? command }
  | _ => none

/-- The configuration in a document, with the folder that is the library where none is given. -/
def Config.ofMembers? (folder : FilePath) (members : Members) : Option Config := do
  let initial := Config.initial folder
  some
    { library := ← given initial.library LibrarySetting.ofItem? (lookUp "library" members)
      rotation := ← given initial.rotation RotationSetting.ofItem? (lookUp "rotation" members)
      home := ← given initial.home ScopeSetting.ofItem? (lookUp "home" members)
      lock := ← given initial.lock ScopeSetting.ofItem? (lookUp "lock" members)
      apply := ← given initial.apply ApplySetting.ofItem? (lookUp "apply" members)
      notifications :=
        ← given initial.notifications NotificationSetting.ofItem? (lookUp "notifications" members) }

/-- The configuration that a text holds. -/
def Config.ofText? (folder : FilePath) (text : String) : Option Config :=
  (Toml.parse? text).bind (Config.ofMembers? folder)

/-! ## Writing -/

/-- The keys of a restriction. -/
def ScopeSetting.entries (setting : ScopeSetting) : List (String × Value) :=
  (setting.tag.toList.map fun tag => ("tag", .string tag)) ++
    (setting.folder.toList.map fun folder => ("folder", .string folder.text))

/-- The sections of a configuration. -/
def Config.sections (config : Config) : List Section :=
  [⟨"library",
    [("folders", .strings (config.library.folders.map FilePath.text)),
     ("recursive", .boolean config.library.recursive),
     ("conflict", .string config.library.conflict.name),
     ("validate_before_rotate", .boolean config.library.validateBeforeRotate)]⟩,
   ⟨"rotation",
    [("mode", .string config.rotation.mode.name),
     ("target", .string config.rotation.target.name),
     ("interval", .string config.rotation.interval)]⟩,
   ⟨"home", config.home.entries⟩,
   ⟨"lock", config.lock.entries⟩,
   ⟨"apply",
    [("home", .strings config.apply.home),
     ("lock", .strings config.apply.lock),
     ("clear", .strings config.apply.clear)]⟩,
   ⟨"notifications",
    [("enabled", .boolean config.notifications.enabled),
     ("command", .strings config.notifications.command)]⟩]

/-- The text of a configuration. -/
def Config.text (config : Config) : String :=
  String.ofList (renderSections config.sections)

end WallpaperRotation
