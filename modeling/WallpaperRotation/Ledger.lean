/-
# Ledgers of recent use

A ledger remembers which wallpapers were shown in the present cycle, in the order of their last
showing, so that none comes again before all others had their turn.
-/
import WallpaperRotation.IdSet
import WallpaperRotation.Timestamp
import WallpaperRotation.Wallpaper

namespace WallpaperRotation

/-- One showing of a wallpaper. -/
structure LedgerEntry where
  id : String
  path : FilePath
  shownAt : Timestamp
  deriving DecidableEq, Repr

/-- The showings of a cycle, the last one at the end. -/
structure Ledger where
  entries : List LedgerEntry
  deriving DecidableEq, Repr

namespace Ledger

/-- The ledger of a cycle that begins. -/
def empty : Ledger := ⟨[]⟩

/-- The identifiers shown, in the order of their last showing. -/
def ids (ledger : Ledger) : List String :=
  ledger.entries.map LedgerEntry.id

/-- The identifier was shown. -/
def contains (ledger : Ledger) (id : String) : Bool :=
  ledger.entries.any fun entry => entry.id = id

/-- The ledger with one more showing; an earlier one of the same wallpaper goes away. -/
def record (ledger : Ledger) (w : Wallpaper) (now : Timestamp) : Ledger :=
  ⟨(ledger.entries.filter fun entry => entry.id ≠ w.id) ++ [⟨w.id, w.path, now⟩]⟩

/-- Every candidate was shown. -/
def covers (ledger : Ledger) (candidates : List Wallpaper) : Bool :=
  candidates.all fun w => ledger.contains w.id

/-- The identifiers that the next pick leaves out, and the ledger for it.  When every candidate was
shown the cycle is over: the ledger begins anew and nothing is left out. -/
def exclusions (ledger : Ledger) (candidates : List Wallpaper) : IdSet × Ledger :=
  if ledger.covers candidates then (IdSet.empty, empty)
  else (IdSet.ofList ledger.ids, ledger)

/-- An identifier was shown exactly when it is among those shown. -/
theorem contains_iff_mem_ids (ledger : Ledger) (id : String) :
    ledger.contains id = true ↔ id ∈ ledger.ids := by
  simp [contains, ids]

/-- After a showing its identifier is the last one, and no earlier one is the same. -/
theorem ids_record (ledger : Ledger) (w : Wallpaper) (now : Timestamp) :
    (ledger.record w now).ids = ledger.ids.filter (· ≠ w.id) ++ [w.id] := by
  simp [record, ids, List.filter_map, Function.comp_def]

end Ledger

end WallpaperRotation
