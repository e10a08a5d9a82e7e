/-
# The folder above

The text of a path's folder is a start of the path's own text: it ends before a separator, unless
it is the root or empty.  Two names put behind one folder have that much in common too.
-/
import WallpaperRotation.FilePath

namespace WallpaperRotation.FilePath

/-! ## Pieces put together -/

/-- There is a piece before the first separator. -/
theorem pieces_ne_nil (text : List Char) : pieces text ≠ [] := by
  unfold pieces
  split
  · simp
  · split
    · simp
    · split <;> simp

/-- A separator divides the pieces before it from those behind it. -/
theorem pieces_append_separator (text rest : List Char) :
    pieces (text ++ '/' :: rest) = pieces text ++ pieces rest := by
  induction text with
  | nil => simp [pieces]
  | cons c text ih =>
    rw [List.cons_append, pieces, pieces, ih]
    by_cases hc : c = '/'
    · rw [if_pos hc, if_pos hc, List.cons_append]
    · rw [if_neg hc, if_neg hc]
      cases hpieces : pieces text with
      | nil => exact absurd hpieces (pieces_ne_nil text)
      | cons piece others => rfl

/-- The pieces of a text make up the text. -/
theorem joinPieces_pieces (text : List Char) : joinPieces (pieces text) = text := by
  induction text with
  | nil => rfl
  | cons c text ih =>
    rw [pieces]
    cases hpieces : pieces text with
    | nil => exact absurd hpieces (pieces_ne_nil text)
    | cons piece others =>
      rw [hpieces] at ih
      by_cases hc : c = '/'
      · rw [if_pos hc, joinPieces, ih, hc, List.nil_append]
        simp
      · rw [if_neg hc, ← ih]
        cases others <;> rfl

/-- Two groups of pieces stand on either side of a separator. -/
theorem joinPieces_append {parts others : List (List Char)} (hparts : parts ≠ [])
    (hothers : others ≠ []) :
    joinPieces (parts ++ others) = joinPieces parts ++ '/' :: joinPieces others := by
  induction parts with
  | nil => exact absurd rfl hparts
  | cons part parts ih =>
    cases parts with
    | nil =>
      cases others with
      | nil => exact absurd rfl hothers
      | cons other others => rfl
    | cons next parts =>
      have hnext := ih (List.cons_ne_nil next parts)
      rw [List.cons_append] at hnext
      simp [joinPieces, hnext]

/-- Without the idle pieces at their end, pieces are a start of what they were. -/
theorem dropIdleEnd_prefix (parts : List (List Char)) : dropIdleEnd parts <+: parts := by
  have hsuffix : parts.reverse.dropWhile isIdle <:+ parts.reverse := List.dropWhile_suffix _
  unfold dropIdleEnd
  rwa [← List.reverse_prefix, List.reverse_reverse] at hsuffix

/-! ## Folders -/

/-- What a text starts with stands before its body. -/
theorem leadText_append_splitLead (text : List Char) :
    leadText (splitLead text).1 ++ (splitLead text).2 = text := by
  unfold splitLead
  split <;> rfl

/-- The path has the other one as a folder: the text goes on behind a separator. -/
def IsBelow (path folder : FilePath) : Prop :=
  ∃ rest, path.text.toList = folder.text.toList ++ '/' :: rest

/-- Behind a leading dot the text ends, or there is a separator. -/
theorem splitLead_here {text body : List Char} (h : splitLead text = (some .here, body)) :
    body = [] ∨ ∃ rest, body = '/' :: rest := by
  unfold splitLead at h
  split at h <;> simp_all [eq_comm]

/-- A path is below its folder, unless that is the root or empty. -/
theorem isBelow_parent? {path parent : FilePath} (h : path.parent? = some parent) :
    parent.text = "" ∨ parent.text = "/" ∨ path.IsBelow parent := by
  unfold parent? at h
  have htext := leadText_append_splitLead path.text.toList
  cases hsplit : splitLead path.text.toList with
  | mk lead body =>
    simp only [hsplit] at h htext
    split at h
    · split at h
      · obtain rfl := Option.some.inj h
        exact Or.inl rfl
      · cases h
    · rename_i parts hparts
      obtain rfl := Option.some.inj h
      -- The pieces that are kept are a start of the body's, and at least the last one is not kept.
      obtain ⟨idle, hidle⟩ := dropIdleEnd_prefix (pieces body)
      obtain ⟨others, hothers⟩ := dropIdleEnd_prefix (dropIdleEnd (pieces body)).dropLast
      generalize hkept : dropIdleEnd (dropIdleEnd (pieces body)).dropLast = kept at hothers
      have hlast := List.dropLast_concat_getLast hparts
      have hpieces : pieces body =
          kept ++ (others ++ ((dropIdleEnd (pieces body)).getLast hparts :: idle)) := by
        rw [← List.append_assoc, hothers, List.append_cons, hlast, hidle]
      have hbody := joinPieces_pieces body
      rw [hpieces] at hbody
      by_cases hnone : kept = []
      · subst hnone
        rcases lead with - | lead
        · exact Or.inl rfl
        · cases lead with
          | root => exact Or.inr (Or.inl rfl)
          | up => exact Or.inl rfl
          | name text => exact Or.inl rfl
          | here =>
            rcases splitLead_here hsplit with rfl | ⟨rest, rfl⟩
            · exact absurd rfl hparts
            · exact Or.inr (Or.inr ⟨rest, htext.symm⟩)
      · rw [joinPieces_append hnone (by simp)] at hbody
        have hrest := htext.symm
        rw [← hbody, ← List.append_assoc] at hrest
        refine Or.inr (Or.inr ?_)
        unfold IsBelow
        rw [String.toList_ofList]
        exact ⟨_, hrest⟩

/-! ## Names in one folder -/

/-- Names without separators are put behind one and the same text. -/
theorem exists_child (folder : FilePath) :
    ∃ base : List Char, ∀ name : String, '/' ∉ name.toList →
      (folder.child name).text.toList = base ++ name.toList := by
  by_cases hlast : folder.text.toList.getLast?.any (· ≠ '/') = true
  · refine ⟨folder.text.toList ++ ['/'], fun name hname => ?_⟩
    have hrelative : (⟨name⟩ : FilePath).isAbsolute = false := by
      refine decide_eq_false fun hhead => hname (List.mem_of_head? hhead)
    rw [child, join, if_neg (by simp [hrelative]), if_pos hlast]
    simp
  · refine ⟨folder.text.toList, fun name hname => ?_⟩
    have hrelative : (⟨name⟩ : FilePath).isAbsolute = false := by
      refine decide_eq_false fun hhead => hname (List.mem_of_head? hhead)
    rw [child, join, if_neg (by simp [hrelative]), if_neg hlast]
    simp

/-- A folder that is above one name in a folder is above every name in it. -/
theorem IsBelow.sibling {folder parent : FilePath} {name other : String}
    (hname : '/' ∉ name.toList) (hother : '/' ∉ other.toList)
    (h : (folder.child name).IsBelow parent) : (folder.child other).IsBelow parent := by
  obtain ⟨base, hbase⟩ := exists_child folder
  obtain ⟨rest, hrest⟩ := h
  rw [hbase name hname] at hrest
  rcases List.append_eq_append_iff.1 hrest with ⟨inner, -, hinner⟩ | ⟨inner, hbefore, hinner⟩
  · -- The name would have the separator in it.
    exact absurd (hinner ▸ List.mem_append_right inner List.mem_cons_self) hname
  · cases inner with
    | nil =>
      rw [List.nil_append] at hinner
      exact absurd (hinner ▸ List.mem_cons_self) hname
    | cons c inner =>
      obtain ⟨rfl, -⟩ := List.cons.inj hinner
      refine ⟨inner ++ other.toList, ?_⟩
      rw [hbase other hother, hbefore, List.append_assoc, List.cons_append]

end WallpaperRotation.FilePath
