/-
# Disks that list their entries in another order

A file system keeps at most one entry at a place, under names that a folder can hold, and lists the
names of a folder in an order of its own.  A disk that differs from another one in that order only
answers every question about a path as the other one does, and lists the same names.
-/
import Mathlib.Data.List.Nodup
import Mathlib.Data.List.Perm.Basic
import WallpaperRotation.Library.Search
import WallpaperRotation.Proofs.FilePath.Child
import WallpaperRotation.Wallpaper

namespace WallpaperRotation

/-! ## Lists in another order -/

/-- Two steps that may fail come to the same elements in some order, or fail for the same reason. -/
inductive Reordered {Fault A : Type} : Except Fault (List A) → Except Fault (List A) → Prop where
  | error (fault : Fault) : Reordered (.error fault) (.error fault)
  | ok {list other : List A} (hperm : list.Perm other) : Reordered (.ok list) (.ok other)

/-- What is done with the elements is done in either order. -/
theorem Reordered.map {Fault A B : Type} {found other : Except Fault (List A)}
    (h : Reordered found other) {f : List A → List B}
    (hperm : ∀ {list list' : List A}, list.Perm list' → (f list).Perm (f list')) :
    Reordered (found.map f) (other.map f) := by
  cases h with
  | error fault => exact .error fault
  | ok h => exact .ok (hperm h)

namespace Disk

/-! ## Disks as file systems keep them -/

/-- There is at most one entry at a place, and all names are such that a folder can hold them. -/
structure WellFormed (disk : Disk) : Prop where
  placesDistinct : (disk.nodes.map Prod.fst).Nodup
  names : ∀ entry ∈ disk.nodes, ∀ name ∈ entry.1, FilePath.IsName name

/-- The names that are listed are such that a folder can hold them. -/
theorem WellFormed.isName_of_mem_list {disk : Disk} (h : disk.WellFormed) {path : FilePath}
    {names : List String} (hlist : disk.list path = .ok names) {name : String}
    (hname : name ∈ names) : FilePath.IsName name := by
  unfold list at hlist
  split at hlist
  · obtain rfl := Except.ok.inj hlist
    obtain ⟨child, hchild, rfl⟩ := List.mem_map.1 hname
    obtain ⟨entry, hentry, hmatch⟩ := List.mem_filterMap.1 hchild
    split at hmatch
    · rename_i last hlast
      split at hmatch
      · obtain rfl := Option.some.inj hmatch
        exact h.names entry hentry last (List.mem_of_getLast? hlast)
      · cases hmatch
    · cases hmatch
  all_goals cases hlist

/-- The entries of a folder stand under their names there, each at a place of its own. -/
theorem sublist_places_children (disk : Disk) (place : Place) :
    ((disk.children place).map fun child => place ++ [child.1]).Sublist
      (disk.nodes.map Prod.fst) := by
  unfold children
  induction disk.nodes with
  | nil => exact List.Sublist.refl _
  | cons entry nodes ih =>
    rw [List.filterMap_cons, List.map_cons]
    split
    · exact ih.cons _
    · rename_i child hchild
      split at hchild
      · rename_i name hname
        split at hchild
        · rename_i hfolder
          obtain rfl := Option.some.inj hchild
          have hplace : place ++ [name] = entry.1 := by
            rw [← hfolder, List.dropLast_append_getLast? name hname]
          rw [List.map_cons, hplace]
          exact ih.cons_cons _
        · cases hchild
      · cases hchild

/-- No name is listed twice. -/
theorem WellFormed.nodup_of_list {disk : Disk} (h : disk.WellFormed) {path : FilePath}
    {names : List String} (hlist : disk.list path = .ok names) : names.Nodup := by
  unfold list at hlist
  split at hlist
  · rename_i place hentry
    obtain rfl := Except.ok.inj hlist
    have hplaces := (disk.sublist_places_children place).nodup h.placesDistinct
    rw [← Function.comp_def (fun name => place ++ [name]) Prod.fst, ← List.map_map] at hplaces
    exact hplaces.of_map
  all_goals cases hlist

/-- The other disk has the same entries, in some order. -/
structure Reorders (other disk : Disk) : Prop where
  nodes : other.nodes.Perm disk.nodes
  here : other.here = disk.here

section Reorders

variable {disk other : Disk}

/-- What stands at a place below the root is the entry there. -/
theorem node?_eq_some_iff (h : (disk.nodes.map Prod.fst).Nodup) {place : Place}
    (hplace : place ≠ []) {node : Node} :
    disk.node? place = some node ↔ (place, node) ∈ disk.nodes := by
  unfold node?
  rw [if_neg hplace, Option.map_eq_some_iff]
  constructor
  · rintro ⟨entry, hfind, rfl⟩
    have hfound : entry.1 = place := by simpa using List.find?_some hfind
    rw [← hfound]
    exact List.mem_of_find?_eq_some hfind
  · intro hmem
    cases hfind : disk.nodes.find? fun entry => entry.1 = place with
    | none => simpa using List.find?_eq_none.1 hfind _ hmem
    | some entry =>
      have hfound : entry.1 = place := by simpa using List.find?_some hfind
      have heq := List.inj_on_of_nodup_map h (List.mem_of_find?_eq_some hfind) hmem hfound
      exact ⟨entry, rfl, by rw [heq]⟩

/-- The same stands at each place. -/
theorem Reorders.node?_eq (h : other.Reorders disk) (hdisk : disk.WellFormed)
    (place : Place) : other.node? place = disk.node? place := by
  have hother : (other.nodes.map Prod.fst).Nodup :=
    (h.nodes.map Prod.fst).nodup_iff.2 hdisk.placesDistinct
  by_cases hplace : place = []
  · rw [hplace]
    rfl
  · refine Option.ext fun node => ?_
    rw [node?_eq_some_iff hother hplace, node?_eq_some_iff hdisk.placesDistinct hplace, h.nodes.mem_iff]

/-- Moves from a place lead to the same. -/
theorem Reorders.descend_eq (h : other.Reorders disk) (hdisk : disk.WellFormed)
    (follow : Bool) (place : Place) (hops : List Hop) :
    other.descend follow place hops = disk.descend follow place hops := by
  have hnode := h.node?_eq hdisk
  induction hops generalizing place with
  | nil => simp only [descend, hnode]
  | cons hop hops ih => simp only [descend, hnode, ih]

/-- Walks lead to the same. -/
theorem Reorders.walk_eq (h : other.Reorders disk) (hdisk : disk.WellFormed)
    (follow : Bool) (fuel : Nat) (place : Place) (hops : List Hop) :
    other.walk follow fuel place hops = disk.walk follow fuel place hops := by
  have hdescend := h.descend_eq hdisk
  induction fuel generalizing place hops with
  | zero => rw [walk, walk, hdescend]
  | succ fuel ih =>
    rw [walk, walk, hdescend]
    cases disk.descend follow place hops <;> simp only [ih]

/-- Paths lead to the same entries. -/
theorem Reorders.entry_eq (h : other.Reorders disk) (hdisk : disk.WellFormed) :
    other.entry = disk.entry := by
  funext follow path
  simp only [entry, land, h.walk_eq hdisk, h.here]

/-- The same paths lead to files. -/
theorem Reorders.isFile_eq (h : other.Reorders disk) (hdisk : disk.WellFormed) :
    other.isFile = disk.isFile := by
  funext path
  simp only [isFile, h.entry_eq hdisk]

/-- The same paths lead to folders. -/
theorem Reorders.isFolder_eq (h : other.Reorders disk) (hdisk : disk.WellFormed) :
    other.isFolder = disk.isFolder := by
  funext path
  simp only [isFolder, h.entry_eq hdisk]

/-- Files make the same records. -/
theorem Reorders.ofFile_eq (h : other.Reorders disk) (hdisk : disk.WellFormed) :
    Wallpaper.ofFile other = Wallpaper.ofFile disk := by
  have hread : other.read = disk.read := by
    funext path
    simp only [Disk.read, h.entry_eq hdisk]
  have hmodified : other.modified? = disk.modified? := by
    funext path
    simp only [modified?, h.entry_eq hdisk]
  funext path folder
  simp only [Wallpaper.ofFile, Wallpaper.contentId, Image.size?, hread, hmodified]

/-- The same entries are folders that a search goes down to. -/
theorem Reorders.subfolder?_eq (h : other.Reorders disk) (hdisk : disk.WellFormed) :
    other.subfolder? = disk.subfolder? := by
  funext within path
  simp only [subfolder?, h.entry_eq hdisk]

/-- The same names are listed. -/
theorem Reorders.list (h : other.Reorders disk) (hdisk : disk.WellFormed)
    (path : FilePath) : Reordered (other.list path) (disk.list path) := by
  unfold Disk.list
  rw [h.entry_eq hdisk]
  split
  · exact .ok ((h.nodes.filterMap _).map _)
  all_goals exact .error _

/-- The same images are found below a folder. -/
theorem Reorders.imagesUnder (h : other.Reorders disk) (hdisk : disk.WellFormed) (depth : Nat)
    (within : List Place) (folder : FilePath) :
    (other.imagesUnder depth within folder).Perm (disk.imagesUnder depth within folder) := by
  induction depth generalizing within folder with
  | zero => exact List.Perm.refl _
  | succ depth ih =>
    unfold Disk.imagesUnder
    have hlist := h.list hdisk folder
    generalize other.list folder = listed at hlist
    generalize disk.list folder = listed' at hlist
    cases hlist with
    | error fault => exact List.Perm.refl _
    | ok hnames =>
      refine (hnames.flatMap_right _).trans (List.Perm.flatMap_left _ fun name _ => ?_)
      simp only [h.subfolder?_eq hdisk, isImageFile, h.isFile_eq hdisk]
      split
      · exact ih _ _
      · exact List.Perm.refl _

/-- The same images are found in or below a folder. -/
theorem Reorders.findImages (h : other.Reorders disk) (hdisk : disk.WellFormed) (recursive : Bool)
    (folder : FilePath) :
    Reordered (other.findImages recursive folder) (disk.findImages recursive folder) := by
  have hdepth : other.searchDepth = disk.searchDepth := by
    unfold searchDepth
    rw [h.nodes.length_eq]
  unfold Disk.findImages
  rw [h.entry_eq hdisk, hdepth]
  split
  · split
    · exact .ok (h.imagesUnder hdisk _ _ _)
    · exact .ok (List.Perm.refl _)
  · have himage : other.isImageFile = disk.isImageFile := by
      funext path
      simp only [isImageFile, h.isFile_eq hdisk]
    have hmap := (h.list hdisk folder).map
      (f := fun names => (names.map folder.child).filter disk.isImageFile)
      fun hperm => (hperm.map _).filter _
    unfold imagesIn
    rw [himage]
    exact hmap

end Reorders

end Disk

end WallpaperRotation
