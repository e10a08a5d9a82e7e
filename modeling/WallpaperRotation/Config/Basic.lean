/-
# Configurations

What people decide: the folders of the library, how and how often wallpapers change, what each
target is restricted to, and the external commands.
-/
import WallpaperRotation.Command.Template
import WallpaperRotation.Scope

namespace WallpaperRotation

/-! ## Sections -/

/-- How the library is kept. -/
structure LibrarySetting where
  folders : List FilePath
  recursive : Bool
  /-- What a scan does about two files with the same contents. -/
  conflict : Policy
  /-- Records without a file are dropped before each rotation. -/
  validateBeforeRotate : Bool
  deriving DecidableEq, Repr

/-- How and how often wallpapers change. -/
structure RotationSetting where
  mode : Mode
  target : Selection
  interval : String
  deriving DecidableEq, Repr

/-- The commands that put wallpapers on a screen. -/
structure ApplySetting where
  home : Template
  lock : Template
  /-- The command for a target whose wallpaper was deleted. -/
  clear : Template
  deriving DecidableEq, Repr

/-- How people are told about changes. -/
structure NotificationSetting where
  enabled : Bool
  command : Template
  deriving DecidableEq, Repr

/-- What people decide. -/
structure Config where
  library : LibrarySetting
  rotation : RotationSetting
  home : ScopeSetting
  lock : ScopeSetting
  apply : ApplySetting
  notifications : NotificationSetting
  deriving DecidableEq, Repr

/-! ## Defaults -/

/-- The notifications where nothing was decided. -/
def NotificationSetting.initial : NotificationSetting := ⟨true, []⟩

/-- The mode, the targets and the interval where nothing was decided. -/
def RotationSetting.initial : RotationSetting := ⟨.random, .home, "30m"⟩

/-- The commands where nothing was decided. -/
def ApplySetting.initial : ApplySetting :=
  ⟨["swww", "img", "\x7bpath\x7d"], [], []⟩

/-- The configuration where nothing was decided, with the folder that is the library then. -/
def Config.initial (folder : FilePath) : Config where
  library := ⟨[folder], true, .version, true⟩
  rotation := RotationSetting.initial
  home := ScopeSetting.unset
  lock := ScopeSetting.unset
  apply := ApplySetting.initial
  notifications := NotificationSetting.initial

namespace Config

/-! ## Views -/

/-- The folders of the library, as seen from the home folder. -/
def folders (config : Config) (home : FilePath) : List FilePath :=
  config.library.folders.map (FilePath.expandTilde home)

/-- What a target is restricted to. -/
def scopeOf (config : Config) : Target → ScopeSetting
  | .home => config.home
  | .lock => config.lock

/-- The configuration with a target restricted anew. -/
def setScope (config : Config) (target : Target) (setting : ScopeSetting) : Config :=
  match target with
  | .home => { config with home := setting }
  | .lock => { config with lock := setting }

/-- A target has the restriction that was set for it. -/
@[simp] theorem scopeOf_setScope_self (config : Config) (target : Target)
    (setting : ScopeSetting) : (config.setScope target setting).scopeOf target = setting := by
  cases target <;> rfl

/-- Restricting one target leaves the other one as it was. -/
theorem scopeOf_setScope_of_ne (config : Config) {target other : Target}
    (setting : ScopeSetting) (h : other ≠ target) :
    (config.setScope target setting).scopeOf other = config.scopeOf other := by
  cases target <;> cases other <;> first | rfl | exact absurd rfl h

end Config

end WallpaperRotation
