/-
# Spellings of a path

The same path can be written with more or fewer separators and single dots.  Each of these asks a
walk to stay in a folder, which changes nothing as long as the walk is not refused; so two
spellings of a path that lead somewhere lead to the same entry.
-/
import Mathlib.Tactic.SplitIfs
import WallpaperRotation.Proofs.Disk.WriteRead
import WallpaperRotation.Proofs.FilePath.Same

namespace WallpaperRotation

/-! ## Moves of a spelling -/

/-- The move that a component of a path asks for. -/
def Hop.ofComponent? : FilePath.Component → Option Hop
  | .up => some .up
  | .name text => some (.into text)
  | .root => none
  | .here => none

namespace FilePath

/-- Apart from staying, pieces ask for the moves of their components. -/
theorem filter_map_ofPiece (parts : List (List Char)) :
    (parts.map Hop.ofPiece).filter (· ≠ .stay) =
      (parts.filterMap componentOf?).filterMap Hop.ofComponent? := by
  induction parts with
  | nil => rfl
  | cons part parts ih =>
    rw [List.map_cons, List.filterMap_cons]
    by_cases hidle : isIdle part = true
    · have hstay : Hop.ofPiece part = .stay := if_pos hidle
      have hnone : componentOf? part = none := if_pos hidle
      rw [hnone, hstay, List.filter_cons_of_neg (by simp), ih]
    · by_cases hup : part = ['.', '.']
      · subst hup
        rw [List.filter_cons_of_pos (by decide), ih]
        rfl
      · have hinto : Hop.ofPiece part = .into (String.ofList part) := by
          rw [Hop.ofPiece, if_neg hidle, if_neg hup]
        have hname : componentOf? part = some (.name (String.ofList part)) := by
          rw [componentOf?, if_neg hidle, if_neg hup]
        rw [hinto, hname, List.filter_cons_of_pos (by simp), ih]
        rfl

/-- A text starts with a separator, is a dot, starts with a dot and a separator, or has no lead. -/
theorem splitLead_cases (text : List Char) :
    (∃ body, text = '/' :: body ∧ splitLead text = (some .root, body)) ∨
      (text = ['.'] ∧ splitLead text = (some .here, [])) ∨
      (∃ body, text = '.' :: '/' :: body ∧ splitLead text = (some .here, '/' :: body)) ∨
      (text.head? ≠ some '/' ∧ splitLead text = (none, text)) := by
  rw [splitLead.eq_def]
  split
  · exact Or.inl ⟨_, rfl, rfl⟩
  · exact Or.inr (Or.inl ⟨rfl, rfl⟩)
  · exact Or.inr (Or.inr (Or.inl ⟨_, rfl, rfl⟩))
  · rename_i hroot _ _
    refine Or.inr (Or.inr (Or.inr ⟨fun hhead => ?_, rfl⟩))
    cases text with
    | nil => cases hhead
    | cons c text => exact hroot text (by rw [Option.some.inj hhead])

/-- Apart from staying, a path asks for the moves of its components. -/
theorem filter_hops (path : FilePath) :
    path.hops.filter (· ≠ .stay) = path.components.filterMap Hop.ofComponent? := by
  unfold hops components
  generalize path.text.toList = text
  rw [filter_map_ofPiece]
  rcases splitLead_cases text with ⟨body, rfl, hsplit⟩ | ⟨rfl, hsplit⟩ | ⟨body, rfl, hsplit⟩ |
    ⟨-, hsplit⟩
  · have hidle : componentOf? [] = none := rfl
    simp [hsplit, pieces, hidle, List.filterMap_cons, Hop.ofComponent?]
  · simp [hsplit, pieces, componentOf?, isIdle, Hop.ofComponent?]
  · have hidle : componentOf? [] = none := rfl
    have hdot : componentOf? ['.'] = none := rfl
    simp [hsplit, pieces, hidle, hdot, List.filterMap_cons, Hop.ofComponent?]
  · simp [hsplit]

/-- A piece of a path is never the root. -/
theorem head?_filterMap_componentOf? (parts : List (List Char)) :
    (parts.filterMap componentOf?).head? ≠ some .root := by
  intro hhead
  obtain ⟨part, -, hpart⟩ := List.mem_filterMap.1 (List.mem_of_head? hhead)
  unfold componentOf? at hpart
  split_ifs at hpart <;> cases hpart

/-- A path starts at the root when that is its first component. -/
theorem isAbsolute_iff_components (path : FilePath) :
    path.isAbsolute = true ↔ path.components.head? = some .root := by
  unfold isAbsolute components
  generalize path.text.toList = text
  rcases splitLead_cases text with ⟨body, rfl, hsplit⟩ | ⟨rfl, hsplit⟩ | ⟨body, rfl, hsplit⟩ |
    ⟨hhead, hsplit⟩
  · simp [hsplit]
  · simp [hsplit]
  · simp [hsplit]
  · simp only [hsplit, hhead, decide_false, Bool.false_eq_true, Option.toList_none,
      List.nil_append, false_iff]
    exact head?_filterMap_componentOf? _

end FilePath

/-! ## Staying less often -/

/-- The second moves are the first ones with some of those left out that only stay. -/
inductive Trims : List Hop → List Hop → Prop where
  | nil : Trims [] []
  | keep (hop : Hop) {hops fewer : List Hop} (h : Trims hops fewer) :
    Trims (hop :: hops) (hop :: fewer)
  | drop {hops fewer : List Hop} (h : Trims hops fewer) : Trims (.stay :: hops) fewer

/-- All moves that only stay can be left out. -/
theorem trims_filter (hops : List Hop) : Trims hops (hops.filter (· ≠ .stay)) := by
  induction hops with
  | nil => exact .nil
  | cons hop hops ih =>
    by_cases hstay : hop = .stay
    · subst hstay
      rw [List.filter_cons_of_neg (by simp)]
      exact .drop ih
    · rw [List.filter_cons_of_pos (by simpa using hstay)]
      exact .keep hop ih

/-- Leaving out moves behind others leaves these as they are. -/
theorem Trims.append_left {hops fewer : List Hop} (h : Trims hops fewer) (first : List Hop) :
    Trims (first ++ hops) (first ++ fewer) := by
  induction first with
  | nil => exact h
  | cons hop first ih => exact .keep hop ih

namespace Disk

/-- The second stop is what the first one becomes when moves that only stay are left out: an entry
stays the same, and a link is the same with fewer moves behind it. -/
def Stop.Trims : Stop → Stop → Prop
  | .entry place node, stop => stop = .entry place node
  | .link folder text rest, stop =>
    ∃ fewer, WallpaperRotation.Trims rest fewer ∧ stop = .link folder text fewer
  | .vacancy _ _, _ => True
  | .refused _, _ => True

variable {disk : Disk}

/-- Moves without some that only stay stop at the same entry or link. -/
theorem descend_trims (disk : Disk) {hops fewer : List Hop} (h : Trims hops fewer) (place : Place) :
    (disk.descend true place hops).Trims (disk.descend true place fewer) := by
  induction h generalizing place with
  | nil =>
    unfold descend
    cases disk.node? place with
    | none => trivial
    | some node => rfl
  | drop h ih =>
    rw [descend.eq_def]
    dsimp only
    cases disk.node? place with
    | none => trivial
    | some node =>
      cases node with
      | folder listable => exact ih place
      | file bytes modified => trivial
      | link text => trivial
  | keep hop h ih =>
    unfold descend
    cases disk.node? place with
    | none => trivial
    | some node =>
      cases node with
      | file bytes modified => trivial
      | link text => trivial
      | folder listable =>
        cases hop with
        | stay => exact ih place
        | up => exact ih place.dropLast
        | into name =>
          by_cases hlength : name.utf8ByteSize > longestName
          · simp only [if_pos hlength]
            trivial
          · simp only [if_neg hlength]
            cases disk.node? (place ++ [name]) with
            | none =>
              simp only
              split_ifs <;> trivial
            | some next =>
              cases next with
              | folder listable => exact ih _
              | file bytes modified => exact ih _
              | link text =>
                simp only [Bool.not_true, Bool.false_eq_true, and_false, if_false]
                exact ⟨_, h, rfl⟩

/-- A walk without some of the moves that only stay leads to the same entry. -/
theorem walk_trims {hops fewer : List Hop} (h : Trims hops fewer) {fuel : Nat}
    {place found : Place} {node : Node}
    (hwalk : disk.walk true fuel place hops = .ok (.entry found node)) :
    disk.walk true fuel place fewer = .ok (.entry found node) := by
  induction fuel generalizing place hops fewer with
  | zero =>
    have htrims := descend_trims disk h place
    rcases walk_eq_ok_iff.1 hwalk with hstop | ⟨fuel, folder, text, rest, hfuel, -, -⟩
    · rw [hstop] at htrims
      exact walk_eq_ok_iff.2 (Or.inl htrims)
    · cases hfuel
  | succ fuel ih =>
    have htrims := descend_trims disk h place
    rcases walk_eq_ok_iff.1 hwalk with hstop | ⟨fuel', folder, text, rest, hfuel, hstop, hrest⟩
    · rw [hstop] at htrims
      exact walk_eq_ok_iff.2 (Or.inl htrims)
    · obtain rfl := Nat.succ.inj hfuel
      rw [hstop] at htrims
      obtain ⟨restFewer, hfewer, hlink⟩ := htrims
      exact walk_eq_ok_iff.2 (Or.inr ⟨fuel, folder, text, restFewer, rfl, hlink,
        ih (hfewer.append_left _) hrest⟩)

/-- An entry is where the walk of its path ends. -/
theorem walk_of_entry {path : FilePath} {found : Place} {node : Node}
    (h : disk.entry true path = .ok (found, node)) :
    disk.walk true linkLimit (startOf disk.here path) path.hops = .ok (.entry found node) := by
  unfold entry at h
  cases hland : disk.land true path with
  | error reason =>
    rw [hland] at h
    cases h
  | ok landing =>
    rw [hland] at h
    cases landing with
    | vacancy folder name => cases h
    | entry place node' =>
      cases h
      rw [← walk_of_land hland]
      exact hland

/-- Two spellings of a path that lead to entries lead to the same one. -/
theorem entry_eq_of_same {path other : FilePath} (h : path.same other = true)
    {found found' : Place} {node node' : Node}
    (hpath : disk.entry true path = .ok (found, node))
    (hother : disk.entry true other = .ok (found', node')) : found = found' ∧ node = node' := by
  have hcomponents := FilePath.same_iff_components_eq.1 h
  have hstart : startOf disk.here path = startOf disk.here other := by
    have habsolute : path.isAbsolute = other.isAbsolute := by
      rw [Bool.eq_iff_iff, FilePath.isAbsolute_iff_components,
        FilePath.isAbsolute_iff_components, hcomponents]
    rw [startOf, startOf, habsolute]
  have hwalk := walk_trims (trims_filter path.hops) (walk_of_entry hpath)
  have hwalk' := walk_trims (trims_filter other.hops) (walk_of_entry hother)
  rw [FilePath.filter_hops, hcomponents, ← FilePath.filter_hops, hstart, hwalk'] at hwalk
  cases hwalk
  exact ⟨rfl, rfl⟩

end Disk

end WallpaperRotation
