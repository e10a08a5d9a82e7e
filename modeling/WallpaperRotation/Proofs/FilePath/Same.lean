/-
# Paths that are the same

Being the same is an equivalence of paths, and the order of paths does not tell the same paths
apart.
-/
import WallpaperRotation.FilePath

namespace WallpaperRotation.FilePath

/-- Paths are the same when they have the same components. -/
theorem same_iff_components_eq {a b : FilePath} :
    a.same b = true ↔ a.components = b.components := by
  simp [same]

/-- Every path is the same as itself. -/
@[simp] theorem same_refl (a : FilePath) : a.same a = true :=
  same_iff_components_eq.2 rfl

/-- It does not matter which of two paths is compared with the other one. -/
theorem same_comm (a b : FilePath) : a.same b = b.same a := by
  rw [Bool.eq_iff_iff, same_iff_components_eq, same_iff_components_eq, eq_comm]

/-- The same paths are the same as the same others. -/
theorem same_congr_left {a b : FilePath} (h : a.same b = true) (c : FilePath) :
    a.same c = b.same c := by
  rw [Bool.eq_iff_iff, same_iff_components_eq, same_iff_components_eq,
    same_iff_components_eq.1 h]

/-- A path is the same as either of two paths that are the same, or as none of them. -/
theorem same_congr_right {b c : FilePath} (h : b.same c = true) (a : FilePath) :
    a.same b = a.same c := by
  rw [same_comm a b, same_comm a c, same_congr_left h]

/-- Being the same is transitive. -/
theorem same_trans {a b c : FilePath} (hab : a.same b = true) (hbc : b.same c = true) :
    a.same c = true := by
  rw [same_congr_left hab, hbc]

/-! ## Names -/

/-- The same paths lead to files of one name. -/
theorem fileName?_eq_of_same {a b : FilePath} (h : a.same b = true) : a.fileName? = b.fileName? := by
  unfold fileName?
  rw [same_iff_components_eq.1 h]

/-- The same paths have one extension. -/
theorem extension?_eq_of_same {a b : FilePath} (h : a.same b = true) :
    a.extension? = b.extension? := by
  unfold extension?
  rw [fileName?_eq_of_same h]

end WallpaperRotation.FilePath
