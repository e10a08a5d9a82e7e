/-
# Configurations loaded

Loading reads a configuration that is there, and changes nothing then.  Where there is none, it saves
the one that nobody decided on, and that is all that it ever does to a disk.
-/
import WallpaperRotation.Proofs.Config.Document
import WallpaperRotation.Proofs.Disk.Written

namespace WallpaperRotation.Config

variable {disk loaded : Disk} {home path : FilePath} {config : Config}

/-- Loading a configuration that is there changes nothing. -/
theorem load_snd_of_holds (h : disk.holds path = true) (home : FilePath) :
    (load disk home path).2 = disk := by
  unfold load Disk.documentText?
  rw [if_pos h]
  cases disk.readText path with
  | error reason => rfl
  | ok text =>
    dsimp only
    cases ofText? (UserFolders.wallpapers disk home) text <;> rfl

/-- Loading a configuration that is not there saves one. -/
theorem load_of_missing (h : disk.holds path = false) (home : FilePath) :
    load disk home path =
      let config := initial (UserFolders.wallpapers disk home)
      let (saved, changed) := disk.saveText .config path config.text
      (saved.map fun _ => config, changed) := by
  unfold load save
  rw [Disk.documentText?_of_missing h]
  dsimp only
  obtain ⟨saved, changed⟩ := disk.saveText .config path
    (initial (UserFolders.wallpapers disk home)).text
  cases saved <;> rfl

/-- Loading the configuration leaves the entries of other paths. -/
theorem entry_load {other : FilePath} {place : Place} {node : Node}
    (hentry : disk.entry true other = .ok (place, node))
    (hapart : (load disk home path).2.areApart other path = true) :
    (load disk home path).2.entry true other = .ok (place, node) := by
  cases hholds : disk.holds path with
  | true => rwa [load_snd_of_holds hholds home]
  | false =>
    rw [load_of_missing hholds] at hapart ⊢
    exact Disk.entry_saveText hentry hapart

/-- A configuration that was loaded is there. -/
theorem exists_entry_load (h : load disk home path = (.ok config, loaded)) :
    ∃ place node, loaded.entry true path = .ok (place, node) := by
  cases hholds : disk.holds path with
  | true =>
    obtain rfl : disk = loaded := by rw [← load_snd_of_holds hholds home, h]
    exact Disk.holds_iff.1 hholds
  | false =>
    rw [load_of_missing hholds] at h
    cases hsaved : disk.saveText .config path (initial (UserFolders.wallpapers disk home)).text with
    | mk saved changed =>
      simp only [hsaved] at h
      cases saved with
      | error failure => cases h
      | ok =>
        obtain ⟨-, rfl⟩ := Prod.mk.inj h
        obtain ⟨place, modified, hentry⟩ := Disk.keeps_saveText hsaved
        exact ⟨place, _, hentry⟩

/-- A configuration that is there and was loaded is a file. -/
theorem exists_file_of_load (hthere : disk.holds path = true)
    (h : load disk home path = (.ok config, loaded)) :
    ∃ place bytes modified, disk.entry true path = .ok (place, .file bytes modified) := by
  unfold load at h
  cases hstored : disk.documentText? .config path with
  | error failure =>
    rw [hstored] at h
    cases h
  | ok text? =>
    cases text? with
    | some text => exact Disk.exists_file_of_documentText? hstored
    | none =>
      unfold Disk.documentText? at hstored
      rw [if_pos hthere] at hstored
      split at hstored <;> cases hstored

end WallpaperRotation.Config
