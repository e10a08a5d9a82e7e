/-
# What readers find

Whatever a reader finds has a property when its parts have properties that go with it: the elements
of a list, the fields of a record, and what a conversion makes.  So values that are read are well
formed, whatever text they are read from.
-/
import WallpaperRotation.Json.Reader
import WallpaperRotation.Result

namespace WallpaperRotation.Json

/-- Whatever the reader finds has the property. -/
def Yields {α : Type} (reader : Reader α) (P : α → Prop) : Prop :=
  ∀ text found rest, reader text = .ok (found, rest) → P found

section Yields

variable {α β δ : Type}

/-- What a conversion makes has the property. -/
theorem yields_restrict {P : β → Prop} {convert : α → Option β}
    (h : ∀ x y, convert x = some y → P y) (reader : Reader α) :
    Yields (restrict reader convert) P := by
  intro text found rest hread
  obtain ⟨⟨x, others⟩, -, hconvert⟩ := exists_of_bind_ok hread
  dsimp only at hconvert
  split at hconvert
  · rename_i y hy
    rw [← (Prod.mk.inj (Except.ok.inj hconvert)).1]
    exact h x y hy
  · cases hconvert

/-! ## Lists -/

/-- The elements of a list behind the first one have the property of every element. -/
theorem Yields.moreElements {element : Reader α} {P : α → Prop} (h : Yields element P)
    (fuel : Nat) : Yields (moreElements element fuel) fun elements => ∀ x ∈ elements, P x := by
  intro text found rest hread
  induction fuel generalizing text found rest with
  | zero => cases hread
  | succ fuel ih =>
    unfold Json.moreElements at hread
    split at hread
    · cases hread
    · rw [← (Prod.mk.inj (Except.ok.inj hread)).1]
      intro x hx
      cases hx
    · split at hread
      · cases hread
      · cases hread
      · obtain ⟨⟨first, behind⟩, hfirst, hread⟩ := exists_of_bind_ok hread
        obtain ⟨⟨others, behind⟩, hothers, hread⟩ := exists_of_bind_ok hread
        rw [← (Prod.mk.inj (Except.ok.inj hread)).1]
        intro x hx
        rcases List.mem_cons.1 hx with rfl | hx
        · exact h _ _ _ hfirst
        · exact ih _ _ _ hothers x hx
    · cases hread

/-- The elements of a list have the property of every element. -/
theorem Yields.list {element : Reader α} {P : α → Prop} (h : Yields element P) :
    Yields (list element) fun elements => ∀ x ∈ elements, P x := by
  intro text found rest hread
  unfold Json.list at hread
  split at hread
  · split at hread
    · rw [← (Prod.mk.inj (Except.ok.inj hread)).1]
      intro x hx
      cases hx
    · cases hread
    · obtain ⟨⟨first, behind⟩, hfirst, hread⟩ := exists_of_bind_ok hread
      obtain ⟨⟨others, behind⟩, hothers, hread⟩ := exists_of_bind_ok hread
      rw [← (Prod.mk.inj (Except.ok.inj hread)).1]
      intro x hx
      rcases List.mem_cons.1 hx with rfl | hx
      · exact h _ _ _ hfirst
      · exact h.moreElements _ _ _ _ hothers x hx
  · cases hread

/-! ## Records -/

/-- A field fills drafts of a kind in to drafts of the kind. -/
def Keeps (D : δ → Prop) (field : Field δ) : Prop :=
  ∀ draft, D draft → Yields (field.read draft) D

/-- A field that is kept as an option keeps a kind of drafts when what it finds goes with it. -/
theorem Yields.keeps {D : δ → Prop} {P : β → Prop} {reader : Reader β} (h : Yields reader P)
    (name : String) (get : δ → Option β) {set : δ → β → δ}
    (hset : ∀ draft x, D draft → P x → D (set draft x)) :
    Keeps D (Field.of name get set reader) := by
  intro draft hdraft text found rest hread
  obtain ⟨⟨x, others⟩, hx, heq⟩ := exists_of_map_ok hread
  rw [← (Prod.mk.inj heq).1]
  exact hset draft x hdraft (h _ _ _ hx)

section Record

variable {shape : Shape δ α} {D : δ → Prop}

/-- Behind a member comes the end or the next one. -/
theorem of_behindMember {fuel : Nat} {next : δ} {behind : List Char} {found : δ} {rest : List Char}
    (hnext : D next) (hmembers : Yields (members shape fuel next) D)
    (hread : (match skipSpace behind with
      | [] => .error .cutOff
      | '}' :: rest => .ok (next, rest)
      | ',' :: rest => members shape fuel next (skipSpace rest)
      | _ => .error .malformed) = Except.ok (found, rest)) : D found := by
  split at hread
  · cases hread
  · rw [← (Prod.mk.inj (Except.ok.inj hread)).1]
    exact hnext
  · exact hmembers _ _ _ hread
  · cases hread

/-- The members of an object keep a kind of drafts that each field keeps. -/
theorem yields_members (h : ∀ field ∈ shape.fields, Keeps D field) (fuel : Nat) {draft : δ}
    (hdraft : D draft) : Yields (members shape fuel draft) D := by
  induction fuel generalizing draft with
  | zero =>
    intro text found rest hread
    cases hread
  | succ fuel ih =>
    intro text found rest hread
    unfold members at hread
    split at hread
    · cases hread
    · obtain ⟨⟨name, behind⟩, -, hread⟩ := exists_of_bind_ok hread
      dsimp only at hread
      split at hread
      · cases hread
      · split at hread
        · cases hread
        · split at hread
          · rename_i field hfield
            obtain ⟨⟨next, behind⟩, hnext, hread⟩ := exists_of_bind_ok hread
            have hfield := h field (List.mem_of_find?_eq_some hfield)
            have hdraft := hfield draft hdraft _ _ _ hnext
            exact of_behindMember hdraft (ih hdraft) hread
          · obtain ⟨⟨next, behind⟩, hnext, hread⟩ := exists_of_bind_ok hread
            -- A member that is no field leaves the draft.
            obtain ⟨others, -, heq⟩ := exists_of_map_ok hnext
            obtain ⟨rfl, rfl⟩ := Prod.mk.inj heq
            exact of_behindMember hdraft (ih hdraft) hread
        · cases hread
    · cases hread

/-- The fields of a record written as a list keep a kind of drafts that each of them keeps. -/
theorem yields_positions {fields : List (Field δ)} (h : ∀ field ∈ fields, Keeps D field)
    (isFirst : Bool) {draft : δ} (hdraft : D draft) :
    Yields (positions fields isFirst draft) D := by
  intro text found rest hread
  induction fields generalizing text draft isFirst with
  | nil =>
    rw [← (Prod.mk.inj (Except.ok.inj hread)).1]
    exact hdraft
  | cons field fields ih =>
    have hothers := ih fun other hother => h other (List.mem_cons_of_mem _ hother)
    have hfield := h field List.mem_cons_self draft hdraft
    unfold positions at hread
    split at hread
    · cases hread
    · rw [← (Prod.mk.inj (Except.ok.inj hread)).1]
      exact hdraft
    · split at hread
      · obtain ⟨⟨next, behind⟩, hnext, hread⟩ := exists_of_bind_ok hread
        exact hothers false (hfield _ _ _ hnext) _ hread
      · split at hread
        · split at hread
          · cases hread
          · cases hread
          · obtain ⟨⟨next, behind⟩, hnext, hread⟩ := exists_of_bind_ok hread
            exact hothers false (hfield _ _ _ hnext) _ hread
        · cases hread

/-- A record that is read is finished from a draft of a kind that each field keeps. -/
theorem yields_record {P : α → Prop} (h : ∀ field ∈ shape.fields, Keeps D field)
    (hblank : D shape.blank) (hfinish : ∀ draft x, D draft → shape.finish draft = some x → P x) :
    Yields (record shape) P := by
  intro text found rest hread
  have hdone {draft : δ} {x : α} (hdraft : D draft) (hx : shape.done draft = .ok x) : P x := by
    unfold Shape.done at hx
    split at hx
    · rename_i y hy
      rw [← Except.ok.inj hx]
      exact hfinish draft y hdraft hy
    · cases hx
  unfold record at hread
  split at hread
  · split at hread
    · obtain ⟨x, hx, hread⟩ := exists_of_bind_ok hread
      rw [← (Prod.mk.inj (Except.ok.inj hread)).1]
      exact hdone hblank hx
    · obtain ⟨⟨draft, behind⟩, hdraft, hread⟩ := exists_of_bind_ok hread
      obtain ⟨x, hx, hread⟩ := exists_of_bind_ok hread
      rw [← (Prod.mk.inj (Except.ok.inj hread)).1]
      exact hdone (yields_members h _ hblank _ _ _ hdraft) hx
  · obtain ⟨⟨draft, behind⟩, hdraft, hread⟩ := exists_of_bind_ok hread
    obtain ⟨x, hx, hread⟩ := exists_of_bind_ok hread
    have hx := hdone (yields_positions h true hblank _ _ _ hdraft) hx
    split at hread
    · rw [← (Prod.mk.inj (Except.ok.inj hread)).1]
      exact hx
    · cases hread
    · cases hread
  · cases hread

end Record

/-! ## Whole texts -/

/-- The value that a text holds has the property. -/
theorem Yields.parse {reader : Reader α} {P : α → Prop} (h : Yields reader P) {text : String}
    {found : α} (hread : parse reader text = .ok found) : P found := by
  obtain ⟨⟨x, rest⟩, hx, hread⟩ := exists_of_bind_ok hread
  dsimp only at hread
  split at hread
  · rw [← Except.ok.inj hread]
    exact h _ _ _ hx
  · cases hread

end Yields

end WallpaperRotation.Json
