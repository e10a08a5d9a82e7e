/-
# Names put behind a folder

A name that a folder can hold is not empty, is no dot and no double dot, and has no separator.  Put
behind a path, it is one more component.  So the paths that lead down from a folder by such names
are the same only when they go through the same names.
-/
import Mathlib.Data.List.Basic
import WallpaperRotation.Proofs.Disk.Spelling
import WallpaperRotation.Proofs.FilePath.Parent

namespace WallpaperRotation.FilePath

/-! ## Components behind a separator -/

/-- A text without separators is one piece. -/
theorem pieces_of_not_mem {text : List Char} (h : '/' ∉ text) : pieces text = [text] := by
  induction text with
  | nil => rfl
  | cons c text ih =>
    rw [List.mem_cons, not_or] at h
    rw [pieces, if_neg (Ne.symm h.1), ih h.2]

/-- A text without a lead has none either with a separator behind it. -/
theorem splitLead_append {text : List Char} (hne : text ≠ []) (h : splitLead text = (none, text))
    (rest : List Char) : splitLead (text ++ '/' :: rest) = (none, text ++ '/' :: rest) := by
  cases text with
  | nil => exact absurd rfl hne
  | cons c text =>
    rcases splitLead_cases (c :: text ++ '/' :: rest) with ⟨body, heq, -⟩ | ⟨heq, -⟩ |
      ⟨body, heq, -⟩ | ⟨-, hsplit⟩
    · obtain ⟨rfl, -⟩ := List.cons.inj heq
      cases h
    · simp at heq
    · -- The separator would be that behind a leading dot.
      obtain ⟨rfl, htext⟩ := List.cons.inj heq
      cases text with
      | nil => cases h
      | cons d text =>
        obtain ⟨rfl, -⟩ := List.cons.inj htext
        cases h
    · exact hsplit

/-- Behind a text that is not empty and a separator there are the components of further pieces. -/
theorem components_of_append {path base : FilePath} (hbase : base.text.toList ≠ [])
    {rest : List Char} (h : path.text.toList = base.text.toList ++ '/' :: rest) :
    path.components = base.components ++ (pieces rest).filterMap componentOf? := by
  unfold components
  rw [h]
  generalize base.text.toList = text at hbase
  have hidle : componentOf? [] = none := rfl
  rcases splitLead_cases text with ⟨body, rfl, hsplit⟩ | ⟨rfl, hsplit⟩ | ⟨body, rfl, hsplit⟩ |
    ⟨-, hsplit⟩
  · rw [List.cons_append, hsplit]
    simp [splitLead, pieces_append_separator, List.filterMap_append]
  · simp [splitLead, pieces, hidle]
  · rw [hsplit]
    simp only [List.cons_append, splitLead]
    rw [← List.cons_append, pieces_append_separator, List.filterMap_append, List.append_assoc]
  · rw [splitLead_append hbase hsplit, hsplit]
    simp only [pieces_append_separator, List.filterMap_append, Option.toList_none, List.nil_append]

/-! ## Names -/

/-- The text is a name that a folder can hold. -/
structure IsName (name : String) : Prop where
  ne_empty : name ≠ ""
  ne_here : name ≠ "."
  ne_up : name ≠ ".."
  separator_not_mem : '/' ∉ name.toList

instance (name : String) : Decidable (IsName name) :=
  decidable_of_iff (name ≠ "" ∧ name ≠ "." ∧ name ≠ ".." ∧ '/' ∉ name.toList)
    ⟨fun ⟨hempty, hhere, hup, hseparator⟩ => ⟨hempty, hhere, hup, hseparator⟩,
      fun h => ⟨h.ne_empty, h.ne_here, h.ne_up, h.separator_not_mem⟩⟩

/-- A name is one component. -/
theorem IsName.components {name : String} (h : IsName name) :
    (pieces name.toList).filterMap componentOf? = [.name name] := by
  have hne {text : String} (hname : name ≠ text) : name.toList ≠ text.toList :=
    fun heq => hname (String.toList_injective heq)
  have hidle : isIdle name.toList = false := by
    simp only [isIdle, Bool.or_eq_false_iff, decide_eq_false_iff_not]
    exact ⟨hne h.ne_empty, hne h.ne_here⟩
  have hup : name.toList ≠ ['.', '.'] := hne h.ne_up
  rw [pieces_of_not_mem h.separator_not_mem]
  simp [componentOf?, hidle, hup]

/-- A name has no lead. -/
theorem IsName.splitLead {name : String} (h : IsName name) :
    splitLead name.toList = (none, name.toList) := by
  have hseparator := h.separator_not_mem
  rcases splitLead_cases name.toList with ⟨body, heq, -⟩ | ⟨heq, -⟩ | ⟨body, heq, -⟩ | ⟨-, hsplit⟩
  · exact absurd (heq ▸ List.mem_cons_self) hseparator
  · exact absurd (String.toList_injective heq) h.ne_here
  · exact absurd (heq ▸ List.mem_cons_of_mem _ List.mem_cons_self) hseparator
  · exact hsplit

/-- A name behind a path is one more component. -/
theorem components_child (folder : FilePath) {name : String} (h : IsName name) :
    (folder.child name).components = folder.components ++ [.name name] := by
  have hrelative : (⟨name⟩ : FilePath).isAbsolute = false :=
    decide_eq_false fun hhead => h.separator_not_mem (List.mem_of_head? hhead)
  have hname := h.components
  unfold child join
  rw [if_neg (by simp [hrelative])]
  by_cases hlast : folder.text.toList.getLast?.any (· ≠ '/') = true
  · rw [if_pos hlast, ← hname]
    refine components_of_append (fun hnil => ?_) (by simp)
    simp [hnil] at hlast
  · rw [if_neg hlast]
    rcases List.eq_nil_or_concat' folder.text.toList with hnil | ⟨text, c, htext⟩
    · simp only [FilePath.components, String.toList_append, hnil, List.nil_append, h.splitLead,
        hname]
      rfl
    · obtain rfl : c = '/' := by simpa [htext] using hlast
      by_cases hroot : text = []
      · simp only [FilePath.components, String.toList_append, htext, hroot, List.nil_append,
          List.cons_append, FilePath.splitLead, hname]
        rfl
      · -- The separator at the folder's end is that before the name.
        have hbase : (FilePath.mk (String.ofList text)).text.toList ≠ [] := by simpa using hroot
        have hfolder : folder.components = _ ++ (pieces []).filterMap componentOf? :=
          components_of_append hbase (by simp [htext])
        have hchild : (⟨folder.text ++ name⟩ : FilePath).components =
            _ ++ (pieces name.toList).filterMap componentOf? :=
          components_of_append hbase (by simp [htext])
        rw [hfolder, hchild, hname]
        simp [pieces, componentOf?, isIdle]

/-- The path that leads down from a folder by names. -/
def descendant (folder : FilePath) (names : List String) : FilePath :=
  names.foldl child folder

/-- Going down adds the names to the components. -/
theorem components_descendant (folder : FilePath) {names : List String}
    (h : ∀ name ∈ names, IsName name) :
    (folder.descendant names).components = folder.components ++ names.map .name := by
  induction names generalizing folder with
  | nil => exact (List.append_nil _).symm
  | cons name names ih =>
    have hrest := ih (folder.child name) fun other hother => h other (List.mem_cons_of_mem _ hother)
    rw [components_child folder (h name List.mem_cons_self), List.append_assoc] at hrest
    exact hrest

/-- Paths that lead down from one folder by names and are the same go by the same names. -/
theorem names_eq_of_descendant_same {folder : FilePath} {names others : List String}
    (hnames : ∀ name ∈ names, IsName name) (hothers : ∀ name ∈ others, IsName name)
    (h : (folder.descendant names).same (folder.descendant others) = true) : names = others := by
  rw [same_iff_components_eq, components_descendant folder hnames,
    components_descendant folder hothers] at h
  have hinjective : Function.Injective Component.name := fun a b hab => Component.name.inj hab
  exact List.map_injective_iff.2 hinjective (List.append_cancel_left h)

/-- Paths that lead down from a folder by different names first are not the same. -/
theorem same_descendant_child_eq_false {folder : FilePath} {name other : String}
    {names others : List String} (hnames : ∀ below ∈ name :: names, IsName below)
    (hothers : ∀ below ∈ other :: others, IsName below) (hne : name ≠ other) :
    ((folder.child name).descendant names).same ((folder.child other).descendant others) =
      false := by
  rw [← Bool.not_eq_true]
  intro hsame
  have hdown : (folder.descendant (name :: names)).same (folder.descendant (other :: others)) =
      true := hsame
  exact hne (List.cons.inj (names_eq_of_descendant_same hnames hothers hdown)).1

end WallpaperRotation.FilePath
