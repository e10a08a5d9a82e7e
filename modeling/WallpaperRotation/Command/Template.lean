/-
# Command templates

External commands are configured as lists of arguments with places left open for values.
-/
import WallpaperRotation.FilePath
import WallpaperRotation.Rotation.Target
import WallpaperRotation.Text.Replace

namespace WallpaperRotation

/-- A place left open in a template, with the value that goes there. -/
structure Slot where
  mark : String
  value : String

/-- The argument with the slots filled one after the other, each everywhere it occurs. -/
def fillSlots (slots : List Slot) (argument : String) : String :=
  slots.foldl (fun text slot =>
    String.ofList (Text.replaceAll slot.mark.toList slot.value.toList text.toList)) argument

/-- A list of arguments with slots to fill. -/
abbrev Template := List String

/-- The arguments with every slot filled. -/
def Template.fill (template : Template) (slots : List Slot) : List String :=
  template.map (fillSlots slots)

/-- The arguments for showing a wallpaper on a target, or for clearing the target when there is no
path. -/
def Template.forTarget (template : Template) (target : Target) (path : Option FilePath) :
    List String :=
  template.fill
    [⟨"\x7bpath\x7d", (path.map FilePath.text).getD ""⟩, ⟨"\x7btarget\x7d", target.name⟩]

/-- The arguments for telling about an event. -/
def Template.forMessage (template : Template) (title body : String) : List String :=
  template.fill [⟨"\x7btitle\x7d", title⟩, ⟨"\x7bbody\x7d", body⟩]

/-- A template is filled argument by argument. -/
theorem Template.length_forTarget (template : Template) (target : Target)
    (path : Option FilePath) : (template.forTarget target path).length = template.length := by
  simp [Template.forTarget, Template.fill]

end WallpaperRotation
