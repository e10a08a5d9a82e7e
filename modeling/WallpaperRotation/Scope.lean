/-
# Scopes

A scope restricts a target to the wallpapers of a tag or of a folder of the library.
-/
import WallpaperRotation.Library.Tags
import WallpaperRotation.Rotation.Target

namespace WallpaperRotation

/-- The wallpapers that a target rotates through. -/
inductive Scope where
  | all
  | tag (name : String)
  | folder (path : FilePath)
  deriving DecidableEq, Repr

/-- Why a scope has no candidates. -/
inductive ScopeError where
  | unknownTag (name : String)
  /-- The folder is not one of the library's. -/
  | unknownFolder (path : FilePath)
  deriving DecidableEq, Repr

/-- The error in words. -/
def ScopeError.message : ScopeError → String
  | .unknownTag name => "tag '" ++ name ++ "' does not exist"
  | .unknownFolder path => "folder " ++ path.text ++ " is not a configured library folder"

namespace Scope

/-- The scope as shown to people. -/
def text : Scope → String
  | .all => "all wallpapers"
  | .tag name => "tag '" ++ name ++ "'"
  | .folder path => "folder " ++ path.text

/-- The two scopes are written alike: tags by the letter, folders by their components. -/
def same : Scope → Scope → Bool
  | .all, .all => true
  | .tag a, .tag b => a = b
  | .folder a, .folder b => a.same b
  | _, _ => false

/-- The wallpapers of a scope, the newest first.  A folder has to be one of the library's. -/
def candidates (scope : Scope) (library : Library) (folders : List FilePath) :
    Except ScopeError (List Wallpaper) :=
  match scope with
  | .all => .ok library.wallpapers
  | .tag name =>
    match library.tag? name with
    | some found => .ok (library.withIds found.ids)
    | none => .error (.unknownTag name)
  | .folder path =>
    if folders.any path.same then .ok (library.inFolder path) else .error (.unknownFolder path)

end Scope

/-- A scope as it is configured; a tag wins over a folder. -/
structure ScopeSetting where
  tag : Option String
  folder : Option FilePath
  deriving DecidableEq, Repr

namespace ScopeSetting

/-- No restriction. -/
def unset : ScopeSetting := ⟨none, none⟩

/-- The scope that a setting stands for. -/
def scope (setting : ScopeSetting) (home : FilePath) : Scope :=
  match setting.tag, setting.folder with
  | some tag, _ => .tag tag
  | none, some folder => .folder (FilePath.expandTilde home folder)
  | none, none => .all

/-- The setting restricts its target. -/
def isSet (setting : ScopeSetting) : Bool :=
  setting.tag.isSome || setting.folder.isSome

/-- A setting stands for all wallpapers exactly when it restricts nothing. -/
theorem scope_eq_all_iff (setting : ScopeSetting) (home : FilePath) :
    setting.scope home = .all ↔ setting.isSet = false := by
  rcases setting with ⟨_ | _, _ | _⟩ <;> simp [scope, isSet]

end ScopeSetting

end WallpaperRotation
