/-
# The state of a rotation as a document

The state is kept as a JSON object with one member for each target and one for the ledger of the
whole library.  Whatever is missing is as in a rotation that has shown nothing yet.
-/
import WallpaperRotation.Library.Document
import WallpaperRotation.Rotation.State

namespace WallpaperRotation

namespace LedgerEntry

/-! ## Ledgers -/

/-- A showing that is being filled in. -/
structure Draft where
  id : Option String
  path : Option FilePath
  shownAt : Option Timestamp

/-- The fields of a showing. -/
def shape : Json.Shape Draft LedgerEntry where
  blank := ⟨none, none, none⟩
  fields :=
    [.of "id" Draft.id (fun draft x => { draft with id := some x }) Json.string,
     .of "path" Draft.path (fun draft x => { draft with path := some x }) Json.path,
     .of "shown_at" Draft.shownAt (fun draft x => { draft with shownAt := some x })
       (Json.restrict Json.string Timestamp.ofText?)]
  finish draft := do some ⟨← draft.id, ← draft.path, ← draft.shownAt⟩

/-- The showing as a value. -/
def value (entry : LedgerEntry) : Json.Value :=
  .object
    [("id", .string entry.id),
     ("path", .string entry.path.text),
     ("shown_at", .string entry.shownAt.text)]

end LedgerEntry

namespace Ledger

/-- The fields of a ledger. -/
def shape : Json.Shape (Option (List LedgerEntry)) Ledger where
  blank := none
  fields :=
    [.of "entries" id (fun _ entries => some entries)
       (Json.list (Json.record LedgerEntry.shape))]
  finish draft := some ⟨draft.getD []⟩

/-- The ledger as a value. -/
def value (ledger : Ledger) : Json.Value :=
  .object [("entries", .list (ledger.entries.map LedgerEntry.value))]

end Ledger

namespace TargetState

/-! ## Targets -/

/-- The state of a target that is being filled in. -/
structure Draft where
  cursor : Option UInt64
  ledger : Option Ledger
  current : Option (Option FilePath)

/-- The fields of the state of a target. -/
def shape : Json.Shape Draft TargetState where
  blank := ⟨none, none, none⟩
  fields :=
    [.of "cursor" Draft.cursor (fun draft x => { draft with cursor := some x }) Json.longWord,
     .of "ledger" Draft.ledger (fun draft x => { draft with ledger := some x })
       (Json.record Ledger.shape),
     .of "current" Draft.current (fun draft x => { draft with current := some x })
       (Json.optional Json.path)]
  finish draft :=
    some ⟨draft.cursor.getD 0, draft.ledger.getD Ledger.empty, draft.current.getD none⟩

/-- The state of a target as a value. -/
def value (state : TargetState) : Json.Value :=
  .object
    [("cursor", .natural state.cursor.toNat),
     ("ledger", state.ledger.value),
     ("current", match state.current with | some path => .string path.text | none => .null)]

end TargetState

namespace RotationState

/-! ## States -/

/-- A state that is being filled in. -/
structure Draft where
  home : Option TargetState
  lock : Option TargetState
  library : Option Ledger

/-- The fields of a state. -/
def shape : Json.Shape Draft RotationState where
  blank := ⟨none, none, none⟩
  fields :=
    [.of "home" Draft.home (fun draft x => { draft with home := some x })
       (Json.record TargetState.shape),
     .of "lock" Draft.lock (fun draft x => { draft with lock := some x })
       (Json.record TargetState.shape),
     .of "library" Draft.library (fun draft x => { draft with library := some x })
       (Json.record Ledger.shape)]
  finish draft :=
    some
      ⟨draft.home.getD TargetState.fresh, draft.lock.getD TargetState.fresh,
        draft.library.getD Ledger.empty⟩

/-- The state as a value. -/
def value (state : RotationState) : Json.Value :=
  .object
    [("home", state.home.value), ("lock", state.lock.value), ("library", state.library.value)]

/-- The text of a state. -/
def text (state : RotationState) : String := state.value.text

/-- The state that a text holds. -/
def ofText (text : String) : Except Json.Fault RotationState :=
  Json.parse (Json.record shape) text

end RotationState

end WallpaperRotation
