/-
# Configurations read back

The document of a configuration holds all of it: each section is read as the part that it was
written for, whatever strings stand in it, and options that are not set are left out and come back
as not set.  A configuration that was kept on a disk is loaded as it was.
-/
import WallpaperRotation.Proofs.Storage
import WallpaperRotation.Proofs.Toml.Document

namespace WallpaperRotation

open Toml

/-! ## Values -/

namespace Toml

/-- Strings in an array are read as they are. -/
theorem Item.strings?_map (texts : List String) :
    Item.strings? (.array (texts.map .string)) = some texts := by
  have hmap : (texts.map Item.string).mapM Item.string? = some texts := by
    induction texts with
    | nil => rfl
    | cons text texts ih => simp [List.mapM_cons, Item.string?, ih]
  exact hmap

/-- A section whose name and keys are bare can be written. -/
theorem Section.isPlain_of_keys {name : String} {entries : List (String × Value)}
    (keys : List String) (hkeys : entries.map Prod.fst = keys) (hname : isBareKey name = true)
    (hbare : keys.all isBareKey = true) (hnodup : keys.Nodup) :
    Section.IsPlain ⟨name, entries⟩ where
  name := hname
  keys := by
    rw [hkeys]
    exact List.all_eq_true.1 hbare
  nodup := by
    rw [hkeys]
    exact hnodup

end Toml

/-- A policy is the one of its name. -/
theorem Policy.ofName?_name (policy : Policy) : ofName? policy.name = some policy := by
  cases policy <;> rfl

/-- A mode is the one of its name. -/
theorem Mode.ofName?_name (mode : Mode) : ofName? mode.name = some mode := by
  cases mode <;> rfl

/-- A selection is the one of its name. -/
theorem Selection.ofName?_name (selection : Selection) :
    ofName? selection.name = some selection := by
  cases selection <;> rfl

/-! ## Sections -/

/-- The section on the library is read back. -/
theorem LibrarySetting.ofItem?_table (setting : LibrarySetting) :
    ofItem? (.table .header
      [("folders", .array ((setting.folders.map FilePath.text).map .string)),
       ("recursive", .boolean setting.recursive),
       ("conflict", .string setting.conflict.name),
       ("validate_before_rotate", .boolean setting.validateBeforeRotate)]) = some setting := by
  have hfolders : (setting.folders.map FilePath.text).map FilePath.mk = setting.folders := by
    rw [List.map_map]
    exact List.map_id _
  simp [-List.map_map, ofItem?, Item.fields?, lookUp, required, given, Item.strings?_map,
    Item.boolean?, Item.choice?, Policy.ofName?_name, hfolders]

/-- The section on the rotation is read back. -/
theorem RotationSetting.ofItem?_table (setting : RotationSetting) :
    ofItem? (.table .header
      [("mode", .string setting.mode.name), ("target", .string setting.target.name),
       ("interval", .string setting.interval)]) = some setting := by
  simp [ofItem?, Item.fields?, lookUp, given, Item.string?, Item.choice?, Mode.ofName?_name,
    Selection.ofName?_name]

/-- The section on a restriction is read back, whichever of its options are set. -/
theorem ScopeSetting.ofItem?_table (setting : ScopeSetting) :
    ofItem? (.table .header
      (setting.entries.map fun entry => (entry.1, entry.2.item))) = some setting := by
  -- An option that is not set has no key, and is looked up in vain.
  obtain ⟨tag, folder⟩ := setting
  cases tag <;> cases folder <;>
    simp [ofItem?, entries, Item.fields?, lookUp, given, Item.string?, pathOf?]

/-- The section on the commands is read back. -/
theorem ApplySetting.ofItem?_table (setting : ApplySetting) :
    ofItem? (.table .header
      [("home", .array (setting.home.map .string)), ("lock", .array (setting.lock.map .string)),
       ("clear", .array (setting.clear.map .string))]) = some setting := by
  simp [ofItem?, Item.fields?, lookUp, given, Item.strings?_map]

/-- The section on notifications is read back. -/
theorem NotificationSetting.ofItem?_table (setting : NotificationSetting) :
    ofItem? (.table .header
      [("enabled", .boolean setting.enabled),
       ("command", .array (setting.command.map .string))]) = some setting := by
  simp [ofItem?, Item.fields?, lookUp, required, given, Item.boolean?, Item.strings?_map]

namespace Config

/-! ## Documents -/

/-- A section on a restriction can be written, whichever of its options are set. -/
theorem isPlain_scope (setting : ScopeSetting) {name : String} (hname : isBareKey name = true) :
    Section.IsPlain ⟨name, setting.entries⟩ := by
  obtain ⟨tag, folder⟩ := setting
  cases tag <;> cases folder
  · exact Section.isPlain_of_keys [] rfl hname (by decide) (by decide)
  · exact Section.isPlain_of_keys ["folder"] rfl hname (by decide) (by decide)
  · exact Section.isPlain_of_keys ["tag"] rfl hname (by decide) (by decide)
  · exact Section.isPlain_of_keys ["tag", "folder"] rfl hname (by decide) (by decide)

/-- The sections of a configuration can be written. -/
theorem isPlain_of_mem_sections (config : Config) :
    ∀ part ∈ config.sections, part.IsPlain := by
  simp only [sections, List.forall_mem_cons]
  refine ⟨?_, ?_, isPlain_scope config.home (by decide), isPlain_scope config.lock (by decide),
    ?_, ?_, List.forall_mem_nil _⟩
  · exact Section.isPlain_of_keys ["folders", "recursive", "conflict", "validate_before_rotate"]
      rfl (by decide) (by decide) (by decide)
  · exact Section.isPlain_of_keys ["mode", "target", "interval"]
      rfl (by decide) (by decide) (by decide)
  · exact Section.isPlain_of_keys ["home", "lock", "clear"]
      rfl (by decide) (by decide) (by decide)
  · exact Section.isPlain_of_keys ["enabled", "command"]
      rfl (by decide) (by decide) (by decide)

/-- The tables of a configuration make up the configuration. -/
theorem ofMembers?_tablesOf (config : Config) (folder : FilePath) :
    ofMembers? folder (tablesOf config.sections) = some config := by
  simp [-List.map_map, ofMembers?, tablesOf, sections, Section.members, lookUp, given,
    LibrarySetting.ofItem?_table, RotationSetting.ofItem?_table, ScopeSetting.ofItem?_table,
    ApplySetting.ofItem?_table, NotificationSetting.ofItem?_table]

/-- The text of a configuration holds the configuration. -/
theorem ofText?_text (config : Config) (folder : FilePath) :
    ofText? folder config.text = some config := by
  have hnodup : (config.sections.map Section.name).Nodup :=
    (by decide : ["library", "rotation", "home", "lock", "apply", "notifications"].Nodup)
  rw [ofText?, text, parse?_renderSections config.isPlain_of_mem_sections hnodup,
    Option.bind_some, ofMembers?_tablesOf]

/-! ## Keeping a configuration on a disk -/

/-- A configuration is loaded from where its text is. -/
theorem load_of_keeps {config : Config} {disk : Disk} {path : FilePath}
    (h : disk.Keeps path config.text) (home : FilePath) :
    load disk home path = (.ok config, disk) := by
  unfold load
  rw [h.documentText?]
  simp only [ofText?_text]

/-- The scope in a text does not depend on what the library is by default. -/
theorem scopeOf_ofText? (folder other : FilePath) (text : String) (target : Target) :
    (ofText? folder text).map (fun config => config.scopeOf target) =
      (ofText? other text).map fun config => config.scopeOf target := by
  unfold ofText?
  cases parse? text with
  | none => rfl
  | some members =>
    simp only [Option.bind_some, ofMembers?]
    cases lookUp "library" members <;> cases target <;>
      simp only [initial, scopeOf, given, Option.bind_eq_bind, Option.bind_some, Option.map_bind,
        Option.map_some, Function.comp_def]

/-- Configurations come back.  The text of a configuration is read as the configuration itself,
whatever folder is the library by default.  It is saved wherever a document can be, and what is
loaded from there is the configuration. -/
theorem comes_back (config : Config) {disk : Disk} {path : FilePath} (hpath : disk.Takes path)
    (home : FilePath) :
    (∀ folder, ofText? folder config.text = some config) ∧
      ∃ saved, config.save disk path = (.ok (), saved) ∧
        load saved home path = (.ok config, saved) := by
  obtain ⟨saved, hsaved⟩ := hpath.exists_saveText .config config.text
  exact ⟨config.ofText?_text, saved, hsaved, load_of_keeps (Disk.keeps_saveText hsaved) home⟩

/-- A configuration with strings of all forms, and arrays of none, one and more of them. -/
def awkward : Config where
  library := ⟨[⟨"a//b"⟩, ⟨""⟩, ⟨"\\ and '"⟩], false, .reject, true⟩
  rotation := ⟨.sequential, .both, "\n\x1b\"\"\"\"\r\n"⟩
  home := ⟨some "it's \"", none⟩
  lock := ⟨none, some ⟨"C:\\\""⟩⟩
  apply := ⟨[], ["\x00\x7f\\"], ["'''", "'\"\"\"", "\t", "\n''\\\"\""]⟩
  notifications := ⟨false, ["'\"\""]⟩

/-- The awkward configuration comes back from a file in a folder that is yet to be made. -/
theorem comes_back_awkward :
    (∀ folder, ofText? folder awkward.text = some awkward) ∧
      ∃ saved, awkward.save (Disk.withFolder "W") ⟨"data/config.toml"⟩ = (.ok (), saved) ∧
        load saved ⟨"/W/home"⟩ ⟨"data/config.toml"⟩ = (.ok awkward, saved) :=
  awkward.comes_back (by rfl) ⟨"/W/home"⟩

end Config

end WallpaperRotation
