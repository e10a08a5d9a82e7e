/-
# Requests

What a whole command line asks for: one of the verbs with everything that it needs.
-/
import WallpaperRotation.CommandLine.Arguments
import WallpaperRotation.Config.Document

namespace WallpaperRotation.CommandLine

/-! ## Requests -/

/-- One of the ledgers, as people name it. -/
inductive LedgerName where
  | target (target : Target)
  | library
  deriving DecidableEq, Repr

/-- What the program is asked to do. -/
inductive Task where
  | rotate (selection : Option Selection)
  | scan
  /-- Only the wallpapers of a tag or of a folder, where one is given. -/
  | list (setting : ScopeSetting)
  | status
  /-- Deletes the wallpaper of a target, without a question where people are sure. -/
  | delete (target : Target) (isSure : Bool)
  | listTags
  | addTag (wallpaper tag : String)
  | removeTag (wallpaper tag : String)
  | showTag (tag : String)
  | setScope (target : Target) (setting : ScopeSetting)
  | clearScope (target : Target)
  | clearHistory (ledger : Option LedgerName)
  | watch (interval : Option String) (selection : Option Selection) (watchFolders : Bool)
  deriving DecidableEq, Repr

/-- A task, and the places of the documents where they are given. -/
structure Request where
  config : Option FilePath
  dataFolder : Option FilePath
  task : Task
  deriving DecidableEq, Repr

/-! ## From readings -/

/-- The ledger of a name. -/
def LedgerName.ofName? : String → Option LedgerName
  | "library" => some .library
  | name => (Target.ofName? name).map .target

namespace Reading

/-- The target that was given. -/
def target? (reading : Reading) : Option Target :=
  (reading.operand? "target").bind Target.ofName?

/-- The selection that was given. -/
def selection? (reading : Reading) : Option Selection :=
  (reading.operand? "target").bind Selection.ofName?

/-- The tag and the folder that were given. -/
def setting (reading : Reading) : ScopeSetting :=
  ⟨reading.operand? "tag", (reading.operand? "folder").map FilePath.mk⟩

/-- The setting has a tag and a folder. -/
def isTorn (setting : ScopeSetting) : Bool :=
  setting.tag.isSome && setting.folder.isSome

/-- What a reading asks for; `none` when something is missing or does not go together. -/
def task? (reading : Reading) : Option Task :=
  match reading.verb, reading.plain with
  | .rotate, _ => some (.rotate reading.selection?)
  | .scan, _ => some .scan
  | .list, _ => if isTorn reading.setting then none else some (.list reading.setting)
  | .status, _ => some .status
  | .delete, _ => reading.target?.map fun target => .delete target (reading.has "yes")
  | .tagList, _ => some .listTags
  | .tagAdd, [wallpaper, tag] => some (.addTag wallpaper tag)
  | .tagRemove, [wallpaper, tag] => some (.removeTag wallpaper tag)
  | .tagShow, [tag] => some (.showTag tag)
  | .scopeSet, _ =>
    if isTorn reading.setting || !reading.setting.isSet then none
    else reading.target?.map fun target => .setScope target reading.setting
  | .scopeClear, _ => reading.target?.map .clearScope
  | .historyClear, _ =>
    some (.clearHistory ((reading.operand? "target").bind LedgerName.ofName?))
  | .watch, _ =>
    some (.watch (reading.operand? "interval") reading.selection? (!reading.has "no-watch-dir"))
  | _, _ => none

end Reading

/-- What a command line asks for. -/
def Request.ofArguments (arguments : List String) : Except Interruption Request := do
  let reading ← Reading.blank.arguments none arguments
  match reading.task? with
  | none => throw .misuse
  | some task =>
    return ⟨(reading.operand? "config").map FilePath.mk,
      (reading.operand? "data-dir").map FilePath.mk, task⟩

end WallpaperRotation.CommandLine
