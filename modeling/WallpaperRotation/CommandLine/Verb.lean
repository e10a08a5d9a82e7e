/-
# The verbs of the command line

What the program can be asked for, in up to two words, and the options that go with each verb.
-/
import WallpaperRotation.Rotation.Target

namespace WallpaperRotation.CommandLine

/-! ## Verbs -/

/-- What was asked for up to now; some verbs need a second word. -/
inductive Verb where
  | program
  | rotate
  | scan
  | list
  | status
  | delete
  | tag
  | tagList
  | tagAdd
  | tagRemove
  | tagShow
  | scope
  | scopeSet
  | scopeClear
  | history
  | historyClear
  | watch
  deriving DecidableEq, Repr

namespace Verb

/-- The words that may follow a verb, and what they make of it. -/
def followers : Verb → List (String × Verb)
  | .program =>
    [("rotate", .rotate), ("scan", .scan), ("list", .list), ("status", .status),
     ("delete", .delete), ("tag", .tag), ("scope", .scope), ("history", .history),
     ("watch", .watch)]
  | .tag => [("list", .tagList), ("add", .tagAdd), ("remove", .tagRemove), ("show", .tagShow)]
  | .scope => [("set", .scopeSet), ("clear", .scopeClear)]
  | .history => [("clear", .historyClear)]
  | _ => []

/-- The number of plain arguments that a verb takes. -/
def plainCount : Verb → Nat
  | .tagAdd | .tagRemove => 2
  | .tagShow => 1
  | _ => 0

end Verb

/-! ## Options -/

/-- What may stand behind an option. -/
inductive Operand where
  /-- Nothing; the option may be given only once. -/
  | once
  /-- Nothing; the option may be given again. -/
  | again
  | text
  /-- A path, which is not empty. -/
  | path
  | choice (names : List String)
  deriving DecidableEq, Repr

/-- An option by its long name and, where it has one, its letter. -/
structure Switch where
  name : String
  letter : Option Char
  operand : Operand
  deriving DecidableEq, Repr

/-- The options that go with every verb. -/
def commonOptions : List Switch :=
  [⟨"config", some 'c', .path⟩, ⟨"data-dir", none, .path⟩, ⟨"verbose", some 'v', .again⟩]

/-- The option for one target. -/
def targetOption : Switch := ⟨"target", some 't', .choice ["home", "lock"]⟩

/-- The option for one target or both. -/
def selectionOption : Switch := ⟨"target", some 't', .choice ["home", "lock", "both"]⟩

/-- The options that go with a verb. -/
def Verb.options (verb : Verb) : List Switch :=
  let own : List Switch :=
    match verb with
    | .program => [⟨"version", some 'V', .once⟩]
    | .rotate => [selectionOption]
    | .list => [⟨"tag", none, .text⟩, ⟨"folder", none, .path⟩]
    | .delete => [targetOption, ⟨"yes", some 'y', .once⟩]
    | .scopeSet => [targetOption, ⟨"tag", none, .text⟩, ⟨"folder", none, .path⟩]
    | .scopeClear => [targetOption]
    | .historyClear => [⟨"target", some 't', .choice ["home", "lock", "library"]⟩]
    | .watch =>
      [⟨"interval", some 'i', .text⟩, selectionOption, ⟨"no-watch-dir", none, .once⟩]
    | _ => []
  commonOptions ++ own

/-- The text may stand behind an option. -/
def Operand.accepts : Operand → String → Bool
  | .once, _ | .again, _ => false
  | .text, _ => true
  | .path, operand => operand ≠ ""
  | .choice names, operand => names.contains operand

end WallpaperRotation.CommandLine
