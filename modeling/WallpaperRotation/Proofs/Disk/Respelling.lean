/-
# Folders in another spelling

More separators and single dots in the path of a folder ask a walk to stay in folders that it is in
anyway, so they change nothing.  A folder is there under every spelling of its path that is short
enough for a path.
-/
import Mathlib.Tactic.ByContra
import WallpaperRotation.Proofs.Disk.Spelling
import WallpaperRotation.Proofs.FilePath.Parent

namespace WallpaperRotation

/-! ## Characters of a path -/

namespace FilePath

/-- A character other than the separator stands in one of the pieces that make up a text. -/
theorem mem_joinPieces {c : Char} (hc : c ≠ '/') (parts : List (List Char)) :
    c ∈ joinPieces parts ↔ ∃ part ∈ parts, c ∈ part := by
  induction parts with
  | nil => simp [joinPieces]
  | cons part parts ih =>
    cases parts with
    | nil => simp [joinPieces]
    | cons next parts =>
      rw [joinPieces, List.mem_append, List.mem_cons, ih]
      · simp [hc]
      · exact List.cons_ne_nil next parts

/-- A character other than the separator and the dot stands in one of the names that a path asks
to go into. -/
theorem mem_text_iff {c : Char} (hseparator : c ≠ '/') (hdot : c ≠ '.') (path : FilePath) :
    c ∈ path.text.toList ↔ ∃ name, Hop.into name ∈ path.hops ∧ c ∈ name.toList := by
  have htext := mem_joinPieces hseparator (pieces path.text.toList)
  rw [joinPieces_pieces] at htext
  rw [htext, hops]
  constructor
  · rintro ⟨piece, hpiece, hc⟩
    have hidle : isIdle piece = false := by
      by_contra hidle
      simp only [Bool.not_eq_false, isIdle, Bool.or_eq_true, decide_eq_true_eq] at hidle
      rcases hidle with rfl | rfl
      · exact List.not_mem_nil hc
      · exact hdot (List.mem_singleton.1 hc)
    have hup : piece ≠ ['.', '.'] := by
      rintro rfl
      simp [hdot] at hc
    have hinto : Hop.ofPiece piece = .into (String.ofList piece) := by
      rw [Hop.ofPiece, hidle, if_neg Bool.false_ne_true, if_neg hup]
    exact ⟨_, List.mem_map.2 ⟨piece, hpiece, hinto⟩, by rwa [String.toList_ofList]⟩
  · rintro ⟨name, hname, hc⟩
    obtain ⟨piece, hpiece, hinto⟩ := List.mem_map.1 hname
    unfold Hop.ofPiece at hinto
    split_ifs at hinto with hidle hup
    obtain rfl := Hop.into.inj hinto
    exact ⟨piece, hpiece, by rwa [String.toList_ofList] at hc⟩

/-- The same paths have the same characters but for separators and dots. -/
theorem mem_text_of_same {path other : FilePath} (h : path.same other = true) {c : Char}
    (hseparator : c ≠ '/') (hdot : c ≠ '.') (hc : c ∈ other.text.toList) :
    c ∈ path.text.toList := by
  obtain ⟨name, hname, hc⟩ := (mem_text_iff hseparator hdot other).1 hc
  have hmoves : other.hops.filter (· ≠ .stay) = path.hops.filter (· ≠ .stay) := by
    rw [filter_hops, filter_hops, same_iff_components_eq.1 h]
  have hkept : Hop.into name ∈ other.hops.filter (· ≠ .stay) := List.mem_filter.2 ⟨hname, rfl⟩
  rw [hmoves] at hkept
  exact (mem_text_iff hseparator hdot path).2 ⟨name, (List.mem_filter.1 hkept).1, hc⟩

/-- A text that does not start with a separator starts its first piece. -/
theorem exists_pieces_cons {c : Char} (hc : c ≠ '/') (text : List Char) :
    ∃ piece others, pieces (c :: text) = (c :: piece) :: others := by
  rw [pieces, if_neg hc]
  cases pieces text with
  | nil => exact ⟨[], [], rfl⟩
  | cons piece others => exact ⟨piece, others, rfl⟩

/-- Only the empty path has no components. -/
theorem text_eq_empty_of_components {path : FilePath} (h : path.components = []) :
    path.text = "" := by
  unfold components at h
  rcases splitLead_cases path.text.toList with ⟨body, -, hsplit⟩ | ⟨-, hsplit⟩ |
    ⟨body, -, hsplit⟩ | ⟨hhead, hsplit⟩
  · simp [hsplit] at h
  · simp [hsplit] at h
  · simp [hsplit] at h
  · cases htext : path.text.toList with
    | nil => exact String.toList_eq_nil_iff.1 htext
    | cons c rest =>
      exfalso
      rw [htext] at hhead hsplit h
      have hc : c ≠ '/' := fun heq => hhead (by rw [heq]; rfl)
      simp only [hsplit, Option.toList_none, List.nil_append] at h
      -- Without a lead the first piece is none that only stays.
      obtain ⟨piece, others, hpieces⟩ := exists_pieces_cons hc rest
      have hidle : isIdle (c :: piece) = true := by
        by_contra hidle
        have hpiece := List.filterMap_eq_nil_iff.1 h (c :: piece)
          (by rw [hpieces]; exact List.mem_cons_self)
        rw [componentOf?, if_neg hidle] at hpiece
        split_ifs at hpiece
      simp only [isIdle, Bool.or_eq_true, decide_eq_true_eq, List.cons.injEq] at hidle
      rcases hidle with hnil | ⟨rfl, rfl⟩
      · cases hnil
      · cases rest with
        | nil => cases hsplit
        | cons d rest =>
          by_cases hd : d = '/'
          · subst hd
            cases hsplit
          · obtain ⟨next, later, hnext⟩ := exists_pieces_cons hd rest
            rw [pieces, if_neg hc, hnext] at hpieces
            cases hpieces

end FilePath

namespace Disk

/-! ## Staying more often -/

/-- The second stop is what the first one becomes when moves are put in that only stay: a folder
stays the same, and a link is the same with more moves behind it. -/
def Stop.Pads : Stop → Stop → Prop
  | .entry place (.folder listable), stop => stop = .entry place (.folder listable)
  | .link folder text rest, stop =>
    ∃ more, WallpaperRotation.Trims more rest ∧ stop = .link folder text more
  | .entry _ _, _ => True
  | .vacancy _ _, _ => True
  | .refused _, _ => True

variable {disk : Disk}

/-- Moves with others among them that only stay stop at the same folder or link. -/
theorem descend_pads (disk : Disk) {hops fewer : List Hop} (h : Trims hops fewer) (place : Place) :
    (disk.descend true place fewer).Pads (disk.descend true place hops) := by
  induction h generalizing place with
  | nil =>
    unfold descend
    cases disk.node? place with
    | none => trivial
    | some node =>
      cases node with
      | folder listable => rfl
      | file bytes modified => trivial
      | link text => trivial
  | @drop hops fewer h ih =>
    cases hnode : disk.node? place with
    | none =>
      cases fewer <;> simp [descend, hnode, Stop.Pads]
    | some node =>
      cases node with
      | folder listable =>
        have hstay : disk.descend true place (.stay :: hops) = disk.descend true place hops := by
          simp only [descend, hnode]
        rw [hstay]
        exact ih place
      | file bytes modified => cases fewer <;> simp [descend, hnode, Stop.Pads]
      | link text => cases fewer <;> simp [descend, hnode, Stop.Pads]
  | keep hop h ih =>
    unfold descend
    cases disk.node? place with
    | none => trivial
    | some node =>
      cases node with
      | file bytes modified => trivial
      | link text => trivial
      | folder listable =>
        cases hop with
        | stay => exact ih place
        | up => exact ih place.dropLast
        | into name =>
          by_cases hlength : name.utf8ByteSize > longestName
          · simp only [if_pos hlength]
            trivial
          · simp only [if_neg hlength]
            cases disk.node? (place ++ [name]) with
            | none =>
              simp only
              split_ifs <;> trivial
            | some next =>
              cases next with
              | folder listable => exact ih _
              | file bytes modified => exact ih _
              | link text =>
                simp only [Bool.not_true, Bool.false_eq_true, and_false, if_false]
                exact ⟨_, h, rfl⟩

/-- A walk with more moves that only stay leads to the same folder. -/
theorem walk_pads {hops fewer : List Hop} (h : Trims hops fewer) {fuel : Nat}
    {place found : Place} {listable : Bool}
    (hwalk : disk.walk true fuel place fewer = .ok (.entry found (.folder listable))) :
    disk.walk true fuel place hops = .ok (.entry found (.folder listable)) := by
  induction fuel generalizing place hops fewer with
  | zero =>
    have hpads := descend_pads disk h place
    rcases walk_eq_ok_iff.1 hwalk with hstop | ⟨fuel, folder, text, rest, hfuel, -, -⟩
    · rw [hstop] at hpads
      exact walk_eq_ok_iff.2 (Or.inl hpads)
    · cases hfuel
  | succ fuel ih =>
    have hpads := descend_pads disk h place
    rcases walk_eq_ok_iff.1 hwalk with hstop | ⟨fuel', folder, text, rest, hfuel, hstop, hrest⟩
    · rw [hstop] at hpads
      exact walk_eq_ok_iff.2 (Or.inl hpads)
    · obtain rfl := Nat.succ.inj hfuel
      rw [hstop] at hpads
      obtain ⟨more, hmore, hlink⟩ := hpads
      exact walk_eq_ok_iff.2 (Or.inr ⟨fuel, folder, text, more, rfl, hlink,
        ih (hmore.append_left _) hrest⟩)

/-! ## Folders -/

/-- A folder that is there is an entry. -/
theorem isFolder_iff {path : FilePath} :
    disk.isFolder path = true ↔
      ∃ place listable, disk.entry true path = .ok (place, .folder listable) := by
  unfold isFolder
  constructor
  · intro h
    split at h
    · rename_i place listable hentry
      exact ⟨place, listable, hentry⟩
    · cases h
  · rintro ⟨place, listable, hentry⟩
    rw [hentry]

/-- A path that leads somewhere is one: it is not empty, not too long, and has no NUL in it. -/
theorem of_entry_eq_ok {path : FilePath} {follow : Bool} {found : Place × Node}
    (h : disk.entry follow path = .ok found) :
    path.text.toList.contains (Char.ofNat 0) = false ∧ path.text ≠ "" ∧
      path.text.utf8ByteSize < pathLimit := by
  unfold entry land at h
  split_ifs at h with hnul hempty hlong
  exact ⟨by simpa using hnul, hempty, Nat.lt_of_not_le hlong⟩

/-- A folder is there under another spelling of its path exactly when that is short enough. -/
theorem isFolder_iff_of_same {path other : FilePath} (h : path.same other = true)
    (hfolder : disk.isFolder path = true) :
    disk.isFolder other = true ↔ other.text.utf8ByteSize < pathLimit := by
  constructor
  · intro hother
    obtain ⟨place, listable, hentry⟩ := isFolder_iff.1 hother
    exact (of_entry_eq_ok hentry).2.2
  · intro hshort
    obtain ⟨place, listable, hentry⟩ := isFolder_iff.1 hfolder
    obtain ⟨hnul, hempty, -⟩ := of_entry_eq_ok hentry
    have hcomponents := FilePath.same_iff_components_eq.1 h
    have hstart : startOf disk.here other = startOf disk.here path := by
      have habsolute : other.isAbsolute = path.isAbsolute := by
        rw [Bool.eq_iff_iff, FilePath.isAbsolute_iff_components,
          FilePath.isAbsolute_iff_components, hcomponents]
      rw [startOf, startOf, habsolute]
    have hnul' : ¬other.text.toList.contains (Char.ofNat 0) = true := by
      intro hcontains
      have hmem := FilePath.mem_text_of_same h (by decide) (by decide)
        (List.contains_iff_mem.1 hcontains)
      rw [List.contains_iff_mem.2 hmem] at hnul
      cases hnul
    have hempty' : other.text ≠ "" := by
      intro hother
      refine hempty (FilePath.text_eq_empty_of_components ?_)
      rw [hcomponents, FilePath.components, hother]
      rfl
    have hwalk := walk_trims (trims_filter path.hops) (walk_of_entry hentry)
    rw [FilePath.filter_hops, hcomponents, ← FilePath.filter_hops, ← hstart] at hwalk
    have hland : disk.land true other = .ok (.entry place (.folder listable)) := by
      rw [land, if_neg hnul', if_neg hempty', if_neg (Nat.not_le_of_lt hshort)]
      exact walk_pads (trims_filter other.hops) hwalk
    refine isFolder_iff.2 ⟨place, listable, ?_⟩
    rw [entry, hland]

end Disk

end WallpaperRotation
