/-
# The state of a rotation read back

The document of a state holds everything that the state holds: what is read from its text is the
state itself, as long as the ledgers tell times that a calendar and a clock can tell.  Every state
that is read from a document is like that.
-/
import WallpaperRotation.Proofs.Json.Yields
import WallpaperRotation.Proofs.Library.Document
import WallpaperRotation.Proofs.Timestamp

namespace WallpaperRotation

/-! ## Times of showings -/

/-- Every showing in the ledger has a valid time. -/
def Ledger.Dated (ledger : Ledger) : Prop :=
  ∀ entry ∈ ledger.entries, entry.shownAt.Valid

/-- Every showing in the ledgers of the state has a valid time. -/
structure RotationState.Dated (state : RotationState) : Prop where
  home : state.home.ledger.Dated
  lock : state.lock.ledger.Dated
  library : state.library.Dated

/-- The ledger of a cycle that begins has no times. -/
theorem Ledger.dated_empty : empty.Dated := by
  intro entry hentry
  cases hentry

open Json

/-! ## Reading back -/

/-- A showing is read back. -/
theorem LedgerEntry.reads_value {entry : LedgerEntry} (h : entry.shownAt.Valid) :
    Reads (Json.record LedgerEntry.shape) entry.value entry := by
  have hshown : Reads (restrict string Timestamp.ofText?) (.string entry.shownAt.text)
      entry.shownAt := (reads_string entry.shownAt.text).restrict (Timestamp.ofText?_text h)
  have hfinish : LedgerEntry.shape.finish ⟨some entry.id, some entry.path, some entry.shownAt⟩ =
      some entry := rfl
  refine reads_record ?_ hfinish
  refine .cons rfl rfl (reads_fieldOf (reads_string entry.id) _) ?_
  refine .cons rfl rfl (reads_fieldOf (reads_path entry.path) _) ?_
  exact .cons rfl rfl (reads_fieldOf hshown _) (.nil _)

/-- A ledger is read back. -/
theorem Ledger.reads_value {ledger : Ledger} (h : ledger.Dated) :
    Reads (Json.record Ledger.shape) ledger.value ledger := by
  have hentries : Reads (list (Json.record LedgerEntry.shape))
      (.list (ledger.entries.map LedgerEntry.value)) ledger.entries :=
    reads_list_map fun entry hentry => LedgerEntry.reads_value (h entry hentry)
  have hfinish : Ledger.shape.finish (some ledger.entries) = some ledger := rfl
  refine reads_record ?_ hfinish
  exact .cons rfl rfl (reads_fieldOf hentries _) (.nil _)

/-- What a target shows is read back, if it shows anything. -/
theorem reads_current (current : Option FilePath) :
    Reads (optional Json.path)
      (match current with | some path => .string path.text | none => .null) current := by
  cases current with
  | none => exact reads_none Json.path
  | some path => exact (reads_path path).optional

/-- The state of a target is read back. -/
theorem TargetState.reads_value {state : TargetState} (h : state.ledger.Dated) :
    Reads (Json.record TargetState.shape) state.value state := by
  have hfinish : TargetState.shape.finish
      ⟨some state.cursor, some state.ledger, some state.current⟩ = some state := rfl
  refine reads_record ?_ hfinish
  refine .cons rfl rfl (reads_fieldOf (reads_longWord state.cursor) _) ?_
  refine .cons rfl rfl (reads_fieldOf (Ledger.reads_value h) _) ?_
  exact .cons rfl rfl (reads_fieldOf (reads_current state.current) _) (.nil _)

namespace RotationState

/-- A state is read back. -/
theorem reads_value {state : RotationState} (h : state.Dated) :
    Reads (Json.record shape) state.value state := by
  have hfinish : shape.finish ⟨some state.home, some state.lock, some state.library⟩ =
      some state := rfl
  refine reads_record ?_ hfinish
  refine .cons rfl rfl (reads_fieldOf (TargetState.reads_value h.home) _) ?_
  refine .cons rfl rfl (reads_fieldOf (TargetState.reads_value h.lock) _) ?_
  exact .cons rfl rfl (reads_fieldOf (Ledger.reads_value h.library) _) (.nil _)

/-- The text of a state holds the state. -/
theorem ofText_text {state : RotationState} (h : state.Dated) : ofText state.text = .ok state := by
  rw [ofText, text, parse_text (reads_value h)]

/-- A state is loaded from where its text is. -/
theorem load_of_keeps {state : RotationState} (hdated : state.Dated) {disk : Disk}
    {path : FilePath} (h : disk.Keeps path state.text) :
    RotationState.load disk path = .ok state := by
  unfold load
  rw [h.documentText?]
  simp only [bind, Except.bind, ofText_text hdated]
  rfl

end RotationState

/-! ## Loaded states -/

/-- What a reader finds has the property that everything has. -/
theorem yields_true {α : Type} (reader : Reader α) : Yields reader fun _ => True :=
  fun _ _ _ _ => trivial

/-- What is filled in, or what stands in for it, has a property when both have. -/
theorem getD_of_forall {α : Type} {P : α → Prop} {filled : Option α} {value : α}
    (hfilled : ∀ x ∈ filled, P x) (hvalue : P value) : P (filled.getD value) := by
  cases filled with
  | none => exact hvalue
  | some x => exact hfilled x rfl

/-- A showing that is read has a valid time. -/
theorem LedgerEntry.yields_valid :
    Yields (Json.record LedgerEntry.shape) fun entry => entry.shownAt.Valid := by
  have htime : Yields (restrict string Timestamp.ofText?) Timestamp.Valid :=
    yields_restrict (fun text t h => Timestamp.valid_of_ofText? h) string
  -- Whatever time a draft has was read.
  refine yields_record (D := fun draft => ∀ t ∈ draft.shownAt, t.Valid) ?_ ?_ ?_
  · intro field hfield
    simp only [LedgerEntry.shape, List.mem_cons, List.not_mem_nil, or_false] at hfield
    rcases hfield with rfl | rfl | rfl
    · exact (yields_true string).keeps _ _ fun draft x hdraft _ => hdraft
    · exact (yields_true Json.path).keeps _ _ fun draft x hdraft _ => hdraft
    · exact htime.keeps _ _ fun draft t _ ht => by simpa using ht
  · intro t ht
    cases ht
  · intro draft entry hdraft hfinish
    obtain ⟨id, -, hfinish⟩ := Option.bind_eq_some_iff.1 hfinish
    obtain ⟨path, -, hfinish⟩ := Option.bind_eq_some_iff.1 hfinish
    obtain ⟨t, ht, hfinish⟩ := Option.bind_eq_some_iff.1 hfinish
    obtain rfl := Option.some.inj hfinish
    exact hdraft t ht

/-- A ledger that is read has valid times. -/
theorem Ledger.yields_dated : Yields (Json.record Ledger.shape) Ledger.Dated := by
  refine yields_record
    (D := fun draft => ∀ entries ∈ draft, ∀ entry ∈ entries, entry.shownAt.Valid) ?_ ?_ ?_
  · intro field hfield
    obtain rfl := List.mem_singleton.1 hfield
    exact LedgerEntry.yields_valid.list.keeps _ _ fun draft entries _ h => by simpa using h
  · intro entries hentries
    cases hentries
  · intro draft ledger hdraft hfinish
    obtain rfl := Option.some.inj hfinish
    exact getD_of_forall hdraft Ledger.dated_empty

/-- The state of a target that is read has a ledger with valid times. -/
theorem TargetState.yields_dated :
    Yields (Json.record TargetState.shape) fun state => state.ledger.Dated := by
  refine yields_record (D := fun draft => ∀ ledger ∈ draft.ledger, ledger.Dated) ?_ ?_ ?_
  · intro field hfield
    simp only [TargetState.shape, List.mem_cons, List.not_mem_nil, or_false] at hfield
    rcases hfield with rfl | rfl | rfl
    · exact (yields_true Json.longWord).keeps _ _ fun draft x hdraft _ => hdraft
    · exact Ledger.yields_dated.keeps _ _ fun draft ledger _ h => by simpa using h
    · exact (yields_true (optional Json.path)).keeps _ _ fun draft x hdraft _ => hdraft
  · intro ledger hledger
    cases hledger
  · intro draft state hdraft hfinish
    obtain rfl := Option.some.inj hfinish
    exact getD_of_forall hdraft Ledger.dated_empty

namespace RotationState

/-- What a draft of a state holds has valid times. -/
structure Draft.Dated (draft : Draft) : Prop where
  home : ∀ state ∈ draft.home, state.ledger.Dated
  lock : ∀ state ∈ draft.lock, state.ledger.Dated
  library : ∀ ledger ∈ draft.library, ledger.Dated

/-- A state that is read has valid times. -/
theorem yields_dated : Yields (Json.record shape) Dated := by
  refine yields_record (D := Draft.Dated) ?_ ?_ ?_
  · intro field hfield
    simp only [shape, List.mem_cons, List.not_mem_nil, or_false] at hfield
    rcases hfield with rfl | rfl | rfl
    · exact TargetState.yields_dated.keeps _ _ fun draft state hdraft h =>
        ⟨by simpa using h, hdraft.lock, hdraft.library⟩
    · exact TargetState.yields_dated.keeps _ _ fun draft state hdraft h =>
        ⟨hdraft.home, by simpa using h, hdraft.library⟩
    · exact Ledger.yields_dated.keeps _ _ fun draft ledger hdraft h =>
        ⟨hdraft.home, hdraft.lock, by simpa using h⟩
  · refine ⟨?_, ?_, ?_⟩ <;> intro found hfound <;> cases hfound
  · intro draft state hdraft hfinish
    obtain rfl := Option.some.inj hfinish
    exact ⟨getD_of_forall hdraft.home Ledger.dated_empty,
      getD_of_forall hdraft.lock Ledger.dated_empty,
      getD_of_forall hdraft.library Ledger.dated_empty⟩

/-- A rotation that has shown nothing yet has no times. -/
theorem dated_fresh : fresh.Dated :=
  ⟨Ledger.dated_empty, Ledger.dated_empty, Ledger.dated_empty⟩

/-- A state that is read from a text has valid times. -/
theorem dated_of_ofText {text : String} {state : RotationState} (h : ofText text = .ok state) :
    state.Dated :=
  yields_dated.parse h

/-- A state that is loaded has valid times. -/
theorem dated_of_load {disk : Disk} {path : FilePath} {state : RotationState}
    (h : RotationState.load disk path = .ok state) : state.Dated := by
  obtain ⟨found, -, h⟩ := exists_of_bind_ok h
  cases found with
  | none =>
    rw [← Except.ok.inj h]
    exact dated_fresh
  | some text =>
    dsimp only at h
    split at h
    · rename_i loaded htext
      rw [← Except.ok.inj h]
      exact dated_of_ofText htext
    · cases h

end RotationState

end WallpaperRotation
