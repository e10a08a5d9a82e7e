/-
# Data files that come back

A document of the library holds a library in order, and a document of the state of a rotation one
whose times a calendar and a clock can tell.  What such documents hold comes back, field for field,
when it is saved and read again, wherever a document can be saved at all.
-/
import WallpaperRotation.Proofs.Library.Consistency
import WallpaperRotation.Proofs.Rotation.Document

namespace WallpaperRotation

/-! ## What documents hold -/

/-- The records of the library stand in order. -/
def Library.InOrder (library : Library) : Prop :=
  library.wallpapers.Pairwise fun a b => precedes a b = true

/-- The libraries in order are those that documents hold. -/
theorem Library.inOrder_iff {library : Library} :
    library.InOrder ↔ ∃ text, ofText text = .ok library := by
  constructor
  · intro h
    exact ⟨library.text, by rw [ofText_text, sorted_eq_self h]⟩
  · rintro ⟨text, h⟩
    -- What is read was put in order.
    obtain ⟨read, -, hread⟩ := exists_of_map_ok h
    rw [← hread]
    exact read.pairwise_sorted

/-- The states with valid times are those that documents hold. -/
theorem RotationState.dated_iff {state : RotationState} :
    state.Dated ↔ ∃ text, ofText text = .ok state := by
  constructor
  · exact fun h => ⟨state.text, ofText_text h⟩
  · rintro ⟨text, h⟩
    exact yields_dated.parse h

/-! ## Saving and loading -/

/-- A library in order is saved wherever a document can be, and comes back as it was. -/
theorem Library.exists_load_save {library : Library} (hordered : library.InOrder) {disk : Disk}
    {path : FilePath} (hpath : disk.Takes path) :
    ∃ saved, library.save disk path = (.ok (), saved) ∧ load saved path = .ok library := by
  obtain ⟨saved, hsaved⟩ := hpath.exists_saveText .library library.text
  exact ⟨saved, hsaved, (load_save hsaved).trans (by rw [sorted_eq_self hordered])⟩

/-- A state with valid times is saved wherever a document can be, and comes back as it was. -/
theorem RotationState.exists_load_save {state : RotationState} (hdated : state.Dated) {disk : Disk}
    {path : FilePath} (hpath : disk.Takes path) :
    ∃ saved, state.save disk path = (.ok (), saved) ∧ load saved path = .ok state := by
  obtain ⟨saved, hsaved⟩ := hpath.exists_saveText .rotationState state.text
  exact ⟨saved, hsaved, load_of_keeps hdated (Disk.keeps_saveText hsaved)⟩

/-- Data files come back.  A library in order and a state with valid times are saved wherever a
document can be, and what is loaded from there is the library and the state themselves. -/
theorem data_files_come_back {library : Library} {state : RotationState} {disk : Disk}
    {path : FilePath} (hordered : library.InOrder) (hdated : state.Dated)
    (hpath : disk.Takes path) :
    (∃ saved, library.save disk path = (.ok (), saved) ∧ Library.load saved path = .ok library) ∧
      ∃ saved, state.save disk path = (.ok (), saved) ∧
        RotationState.load saved path = .ok state :=
  ⟨library.exists_load_save hordered hpath, state.exists_load_save hdated hpath⟩

/-- A library of two records with awkward words and the greatest numbers, and a tag. -/
def awkwardLibrary : Library :=
  ⟨[⟨"\u0000", "\"\\\n\t\x7f", ⟨"a//b"⟩, 4294967295, 0, ⟨""⟩, 18446744073709551615,
      18446744073709551615⟩,
    ⟨"é", "", ⟨"a/b"⟩, 1, 2, ⟨"a"⟩, 0, 0⟩],
    [⟨"\x1b", IdSet.ofList ["é", "\u0000"]⟩]⟩

/-- A state with the greatest cursor, a leap second, and fractions of a second. -/
def awkwardState : RotationState :=
  ⟨⟨18446744073709551615, ⟨[⟨"é", ⟨"a/b"⟩, ⟨⟨2016, 12, 31⟩, 86399, 1500000000⟩⟩]⟩, some ⟨"\""⟩⟩,
    TargetState.fresh, ⟨[⟨"", ⟨""⟩, ⟨⟨-262143, 1, 1⟩, 0, 1⟩⟩]⟩⟩

/-- The awkward library and the awkward state come back from a file in a folder that is yet to be
made. -/
theorem data_files_come_back_awkward :
    (∃ saved, awkwardLibrary.save (Disk.withFolder "W") ⟨"data/f.json"⟩ = (.ok (), saved) ∧
        Library.load saved ⟨"data/f.json"⟩ = .ok awkwardLibrary) ∧
      ∃ saved, awkwardState.save (Disk.withFolder "W") ⟨"data/f.json"⟩ = (.ok (), saved) ∧
        RotationState.load saved ⟨"data/f.json"⟩ = .ok awkwardState := by
  have hordered : awkwardLibrary.InOrder := by
    unfold Library.InOrder
    decide +kernel
  have hdated : awkwardState.Dated := by
    refine ⟨?_, Ledger.dated_empty, ?_⟩ <;> intro entry hentry <;>
      obtain rfl := List.mem_singleton.1 hentry <;> exact ⟨by decide, by decide, by decide⟩
  exact data_files_come_back hordered hdated (by unfold Disk.Takes; decide +kernel)

end WallpaperRotation
