/-
# The library read back

The document of a library holds everything that the library holds: what is read from its text, or
loaded from where it was kept, is the library itself, put in order.
-/
import WallpaperRotation.Proofs.Json.Reader
import WallpaperRotation.Proofs.Storage

namespace WallpaperRotation

/-! ## Sets of identifiers -/

namespace IdSet

/-- An identifier behind all others goes to the end of the list. -/
theorem insertInto_of_forall_lt {id : String} {ids : List String} (h : ∀ other ∈ ids, other < id) :
    insertInto id ids = ids ++ [id] := by
  induction ids with
  | nil => rfl
  | cons other ids ih =>
    have hlt := h other List.mem_cons_self
    have hne : id ≠ other := fun heq => String.lt_irrefl id (heq ▸ hlt)
    rw [insertInto, if_neg (String.lt_asymm hlt), if_neg hne,
      ih fun x hx => h x (List.mem_cons_of_mem _ hx), List.cons_append]

/-- Putting in an ascending list behind a set goes on with the set. -/
theorem ids_foldl_insert (set : IdSet) {ids : List String}
    (h : (set.ids ++ ids).Pairwise (· < ·)) : (ids.foldl insert set).ids = set.ids ++ ids := by
  induction ids generalizing set with
  | nil => rw [List.foldl_nil, List.append_nil]
  | cons id ids ih =>
    have hlt : ∀ other ∈ set.ids, other < id := fun other hother =>
      (List.pairwise_append.1 h).2.2 other hother id List.mem_cons_self
    have hinsert : (set.insert id).ids = set.ids ++ [id] := insertInto_of_forall_lt hlt
    rw [List.foldl_cons, ih, hinsert, List.append_assoc, List.singleton_append]
    rwa [hinsert, List.append_assoc, List.singleton_append]

/-- A set is the set of the identifiers in its own list. -/
theorem ofList_ids (set : IdSet) : ofList set.ids = set := by
  have h : (ofList set.ids).ids = set.ids :=
    ids_foldl_insert empty (by rw [empty, List.nil_append]; exact set.ascending)
  cases set
  exact mk.injEq .. ▸ h

end IdSet

/-! ## Numbers and paths -/

namespace Json

/-- A number of 32 bits is read back. -/
theorem reads_word (n : UInt32) : Reads word (.natural n.toNat) n :=
  (reads_natural (by have := n.toNat_lt; omega) (by decide)).restrict
    (by rw [UInt32.ofNat_toNat])

/-- A number of 64 bits is read back. -/
theorem reads_longWord (n : UInt64) : Reads longWord (.natural n.toNat) n :=
  (reads_natural (by have := n.toNat_lt; omega) (by decide)).restrict
    (by rw [UInt64.ofNat_toNat])

/-- A path is read back. -/
theorem reads_path (path : FilePath) : Reads Json.path (.string path.text) path :=
  (reads_string path.text).restrict rfl

/-- Values made from elements that are read back form a list that is read back. -/
theorem reads_list_map {α : Type} {element : Reader α} {value : α → Value} {elements : List α}
    (h : ∀ x ∈ elements, Reads element (value x) x) :
    Reads (list element) (.list (elements.map value)) elements := by
  refine reads_list ?_
  induction elements with
  | nil => exact .nil
  | cons x elements ih =>
    have hothers := ih fun y hy => h y (List.mem_cons_of_mem x hy)
    exact .cons (h x List.mem_cons_self) hothers

end Json

open Json

/-! ## Records, tags and libraries -/

/-- A record is read back. -/
theorem Wallpaper.reads_value (w : Wallpaper) : Reads (record Wallpaper.shape) w.value w := by
  have hfinish : Wallpaper.shape.finish ⟨some w.id, some w.name, some w.path, some w.width,
      some w.height, some w.folder, some w.fileSize, some w.modifiedAt⟩ = some w := rfl
  refine reads_record ?_ hfinish
  refine .cons rfl rfl (reads_fieldOf (reads_string w.id) _) ?_
  refine .cons rfl rfl (reads_fieldOf (reads_string w.name) _) ?_
  refine .cons rfl rfl (reads_fieldOf (reads_path w.path) _) ?_
  refine .cons rfl rfl (reads_fieldOf (reads_word w.width) _) ?_
  refine .cons rfl rfl (reads_fieldOf (reads_word w.height) _) ?_
  refine .cons rfl rfl (reads_fieldOf (reads_path w.folder) _) ?_
  refine .cons rfl rfl (reads_fieldOf (reads_longWord w.fileSize) _) ?_
  exact .cons rfl rfl (reads_fieldOf (reads_longWord w.modifiedAt) _) (.nil _)

/-- A tag is read back. -/
theorem Tag.reads_value (tag : Tag) : Reads (record Tag.shape) tag.value tag := by
  have hids : Reads (restrict (list string) fun ids => some (IdSet.ofList ids))
      (.list (tag.ids.ids.map .string)) tag.ids :=
    (reads_list_map fun id _ => reads_string id).restrict (by rw [IdSet.ofList_ids])
  have hfinish : Tag.shape.finish ⟨some tag.name, some tag.ids⟩ = some tag := rfl
  refine reads_record ?_ hfinish
  refine .cons rfl rfl (reads_fieldOf (reads_string tag.name) _) ?_
  exact .cons rfl rfl (reads_fieldOf hids _) (.nil _)

namespace Library

/-- A library is read back. -/
theorem reads_value (library : Library) : Reads (record shape) library.value library := by
  have hfinish : shape.finish ⟨some library.wallpapers, some library.tags⟩ = some library := rfl
  refine reads_record ?_ hfinish
  refine .cons rfl rfl (reads_fieldOf (reads_list_map fun w _ => w.reads_value) _) ?_
  exact .cons rfl rfl (reads_fieldOf (reads_list_map fun tag _ => tag.reads_value) _) (.nil _)

/-- The text of a library holds the library, in order. -/
theorem ofText_text (library : Library) : ofText library.text = .ok library.sorted := by
  rw [ofText, text, parse_text library.reads_value]
  rfl

/-! ## Keeping a library on a disk -/

/-- A library is loaded in order from where its text is. -/
theorem load_of_keeps {library : Library} {disk : Disk} {path : FilePath}
    (h : disk.Keeps path library.text) : Library.load disk path = .ok library.sorted := by
  unfold load
  rw [h.documentText?]
  simp only [bind, Except.bind, ofText_text]
  rfl

/-- A library that was kept is loaded in order. -/
theorem load_save {library : Library} {disk disk' : Disk} {path : FilePath}
    (h : library.save disk path = (.ok (), disk')) :
    Library.load disk' path = .ok library.sorted :=
  load_of_keeps (Disk.keeps_saveText h)

end Library

end WallpaperRotation
