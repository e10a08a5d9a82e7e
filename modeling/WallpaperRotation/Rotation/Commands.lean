/-
# Showing and telling by commands

The configured commands put wallpapers on the targets, clear targets and tell people.  A target
without a command cannot be shown anything; without a command for it, clearing does nothing.
-/
import WallpaperRotation.Command.Run
import WallpaperRotation.Rotation.Rotator

namespace WallpaperRotation

namespace ApplySetting

/-- The command that shows a wallpaper on a target. -/
def template (setting : ApplySetting) : Target → Template
  | .home => setting.home
  | .lock => setting.lock

/-- Shows a wallpaper on a target by the command for it. -/
def apply (setting : ApplySetting) (target : Target) (w : Wallpaper) (disk : Disk) :
    OnDisk Unit :=
  if setting.template target = [] then (.error (.noApplyCommand target), disk)
  else
    match disk.runCommand ((setting.template target).forTarget target (some w.path)) with
    | (.error cause, disk) => (.error (.notShown target cause), disk)
    | (.ok (), disk) => (.ok (), disk)

/-- Clears a target by the command for it. -/
def clearTarget (setting : ApplySetting) (target : Target) (disk : Disk) : OnDisk Unit :=
  if setting.clear = [] then (.ok (), disk)
  else
    match disk.runCommand (setting.clear.forTarget target none) with
    | (.error cause, disk) => (.error (.notCleared target cause), disk)
    | (.ok (), disk) => (.ok (), disk)

/-- The configured commands as what puts wallpapers on the targets. -/
def applier (setting : ApplySetting) : Applier := ⟨setting.apply, setting.clearTarget⟩

end ApplySetting

namespace NotificationSetting

/-- Hands a message on to the command for it; that this may fail does not count. -/
def forward (setting : NotificationSetting) (title body : String) (disk : Disk) : Disk :=
  if setting.command = [] then disk
  else (disk.runCommand (setting.command.forMessage title body)).2

/-- The configured way to tell that a target has a new wallpaper. -/
def notifier (setting : NotificationSetting) : Notifier := fun target w disk =>
  if setting.enabled then
    setting.forward ("Wallpaper changed (" ++ target.name ++ ")") w.name disk
  else disk

end NotificationSetting

end WallpaperRotation
