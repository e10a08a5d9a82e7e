/-
# Ledgers in the order of the last showings

Whatever was asked of a ledger that began empty, it holds the last showing of each wallpaper that
was shown since it was emptied, in the order of these showings.  It is emptied on request, and when
the identifiers to leave out are asked for and it holds every candidate.
-/
import Mathlib.Data.List.Induction
import WallpaperRotation.Proofs.Rotation.Cycle

namespace WallpaperRotation

/-! ## Last showings -/

/-- The last showing of each identifier, in the order of these showings. -/
def lastShowings : List LedgerEntry → List LedgerEntry
  | [] => []
  | e :: later => if ∃ f ∈ later, f.id = e.id then lastShowings later else e :: lastShowings later

section Showings

variable {showings : List LedgerEntry} {id : String}

/-- Each identifier that was shown has a last showing. -/
theorem exists_mem_lastShowings_iff :
    (∃ e ∈ lastShowings showings, e.id = id) ↔ ∃ e ∈ showings, e.id = id := by
  induction showings with
  | nil => rfl
  | cons e later ih =>
    unfold lastShowings
    by_cases hlater : ∃ f ∈ later, f.id = e.id
    · rw [if_pos hlater, ih]
      simp only [List.mem_cons, exists_eq_or_imp]
      exact (or_iff_right_of_imp fun hid => hid ▸ hlater).symm
    · rw [if_neg hlater]
      simp only [List.mem_cons, exists_eq_or_imp, ih]

/-- Each identifier has one last showing. -/
theorem nodup_ids_lastShowings (showings : List LedgerEntry) :
    ((lastShowings showings).map LedgerEntry.id).Nodup := by
  induction showings with
  | nil => exact List.nodup_nil
  | cons e later ih =>
    unfold lastShowings
    by_cases hlater : ∃ f ∈ later, f.id = e.id
    · rw [if_pos hlater]
      exact ih
    · rw [if_neg hlater, List.map_cons, List.nodup_cons]
      exact ⟨fun hagain => hlater (exists_mem_lastShowings_iff.1 (List.mem_map.1 hagain)), ih⟩

/-- One more showing takes the stead of the last one of the same identifier. -/
theorem lastShowings_append_singleton (showings : List LedgerEntry) (e : LedgerEntry) :
    lastShowings (showings ++ [e]) =
      ((lastShowings showings).filter fun f => f.id ≠ e.id) ++ [e] := by
  induction showings with
  | nil => simp [lastShowings]
  | cons f later ih =>
    rw [List.cons_append, lastShowings, lastShowings, ih]
    by_cases hlater : ∃ g ∈ later, g.id = f.id
    · have hmore : ∃ g ∈ later ++ [e], g.id = f.id := by
        obtain ⟨g, hg, hid⟩ := hlater
        exact ⟨g, List.mem_append_left _ hg, hid⟩
      rw [if_pos hlater, if_pos hmore]
    · rw [if_neg hlater]
      by_cases hid : e.id = f.id
      · rw [if_pos ⟨e, List.mem_append_right _ List.mem_cons_self, hid⟩,
          List.filter_cons_of_neg (by simp [hid])]
      · have hnone : ¬∃ g ∈ later ++ [e], g.id = f.id := by
          rintro ⟨g, hg, hgid⟩
          rcases List.mem_append.1 hg with hg | hg
          · exact hlater ⟨g, hg, hgid⟩
          · exact hid (List.mem_singleton.1 hg ▸ hgid)
        rw [if_neg hnone, List.filter_cons_of_pos (by simpa using Ne.symm hid), List.cons_append]

end Showings

/-! ## Calls -/

/-- What is asked of a ledger. -/
inductive LedgerCall where
  | record (w : Wallpaper) (now : Timestamp)
  | clear
  /-- The identifiers to leave out of the next pick among candidates. -/
  | exclusions (candidates : List Wallpaper)

/-- The showings since a ledger was emptied, after one more call. -/
def shownAfter (showings : List LedgerEntry) : LedgerCall → List LedgerEntry
  | .record w now => showings ++ [⟨w.id, w.path, now⟩]
  | .clear => []
  | .exclusions candidates =>
    if ∀ w ∈ candidates, ∃ e ∈ showings, e.id = w.id then [] else showings

/-- The showings since a ledger that began empty was emptied last. -/
def shownSinceEmptied (calls : List LedgerCall) : List LedgerEntry :=
  calls.foldl shownAfter []

namespace Ledger

/-- The ledger after a call. -/
def apply (ledger : Ledger) : LedgerCall → Ledger
  | .record w now => ledger.record w now
  | .clear => empty
  | .exclusions candidates => (ledger.exclusions candidates).2

/-- The ledger after calls, one after the other. -/
def run (ledger : Ledger) (calls : List LedgerCall) : Ledger :=
  calls.foldl apply ledger

section Calls

variable {ledger : Ledger} {candidates : List Wallpaper}

/-- An identifier is in the ledger when an entry has it. -/
theorem mem_ids {id : String} : id ∈ ledger.ids ↔ ∃ e ∈ ledger.entries, e.id = id :=
  List.mem_map

/-- A ledger covers candidates whose identifiers it all holds. -/
theorem covers_iff : ledger.covers candidates = true ↔ ∀ w ∈ candidates, w.id ∈ ledger.ids := by
  simp only [covers, List.all_eq_true, contains_iff_mem_ids]

/-- Where all candidates were shown, the ledger is emptied and nothing is left out. -/
theorem exclusions_of_covers (h : ∀ w ∈ candidates, w.id ∈ ledger.ids) :
    ledger.exclusions candidates = (IdSet.empty, empty) :=
  if_pos (covers_iff.2 h)

/-- Where a candidate was not shown, the ledger stays as it is and its identifiers are left out. -/
theorem exclusions_of_not_covers (h : ¬∀ w ∈ candidates, w.id ∈ ledger.ids) :
    ledger.exclusions candidates = (IdSet.ofList ledger.ids, ledger) :=
  if_neg (covers_iff.not.2 h)

/-- A call changes the last showings as it changes the ledger. -/
theorem entries_apply {showings : List LedgerEntry} (h : ledger.entries = lastShowings showings)
    (call : LedgerCall) :
    (ledger.apply call).entries = lastShowings (shownAfter showings call) := by
  cases call with
  | record w now =>
    rw [shownAfter, lastShowings_append_singleton, ← h]
    rfl
  | clear => rfl
  | exclusions candidates =>
    have hiff : (∀ w ∈ candidates, w.id ∈ ledger.ids) ↔
        ∀ w ∈ candidates, ∃ e ∈ showings, e.id = w.id := by
      simp only [mem_ids, h, exists_mem_lastShowings_iff]
    simp only [apply, shownAfter]
    by_cases hcovers : ∀ w ∈ candidates, w.id ∈ ledger.ids
    · rw [exclusions_of_covers hcovers, if_pos (hiff.1 hcovers)]
      rfl
    · rw [exclusions_of_not_covers hcovers, if_neg (mt hiff.2 hcovers)]
      exact h

/-- After any calls a ledger that began empty holds the last showings since it was emptied. -/
theorem entries_run_empty (calls : List LedgerCall) :
    (empty.run calls).entries = lastShowings (shownSinceEmptied calls) := by
  induction calls using List.reverseRecOn with
  | nil => rfl
  | append_singleton calls call ih =>
    rw [run, shownSinceEmptied, List.foldl_append, List.foldl_append]
    exact entries_apply ih call

/-- A ledger that began empty, after any calls to put a wallpaper down, to be emptied and to tell
which identifiers to leave out of a pick among some candidates.  It holds every identifier once, and
those that were put down since it was emptied, with the path and the time of the last time, in the
order of these last times.  Asked what to leave out, it is emptied and leaves nothing out when it
holds every candidate; otherwise it stays as it is and leaves out what it holds.  Unless it is empty
anyway, the two can be told apart. -/
theorem run_empty_eq_lastShowings (calls : List LedgerCall) :
    (empty.run calls).ids.Nodup ∧
    (empty.run calls).entries = lastShowings (shownSinceEmptied calls) ∧
    (∀ id, id ∈ (empty.run calls).ids ↔ ∃ e ∈ shownSinceEmptied calls, e.id = id) ∧
    ∀ candidates : List Wallpaper,
      ((∀ w ∈ candidates, w.id ∈ (empty.run calls).ids) →
        (empty.run calls).exclusions candidates = (IdSet.empty, empty)) ∧
      ((¬∀ w ∈ candidates, w.id ∈ (empty.run calls).ids) →
        ((empty.run calls).exclusions candidates).2 = empty.run calls ∧
        ∀ id, ((empty.run calls).exclusions candidates).1.contains id = true ↔
          id ∈ (empty.run calls).ids) ∧
      (empty.run calls ≠ empty →
        ((empty.run calls).exclusions candidates = (IdSet.empty, empty) ↔
          ∀ w ∈ candidates, w.id ∈ (empty.run calls).ids)) := by
  have hentries := entries_run_empty calls
  refine ⟨?_, hentries, fun id => ?_, fun candidates => ⟨exclusions_of_covers, fun h => ?_,
    fun hsome => ⟨fun h => ?_, exclusions_of_covers⟩⟩⟩
  · rw [ids, hentries]
    exact nodup_ids_lastShowings _
  · rw [mem_ids, hentries, exists_mem_lastShowings_iff]
  · rw [exclusions_of_not_covers h]
    exact ⟨rfl, IdSet.contains_ofList _⟩
  · by_contra hcovers
    rw [exclusions_of_not_covers hcovers] at h
    exact hsome (congrArg Prod.snd h)

end Calls

end Ledger

/-- A wallpaper that is put down again stands behind the others, with the path of the last time. -/
example :
    ((Ledger.empty.run [.record (sampleWallpaper "a") (sampleTimes 0),
      .record (sampleWallpaper "b") (sampleTimes 1), .exclusions [sampleWallpaper "c"],
      .record { sampleWallpaper "a" with path := ⟨"moved/a.png"⟩ } (sampleTimes 2)]).entries.map
        fun e => (e.id, e.path)) = [("b", ⟨"walls/b.png"⟩), ("a", ⟨"moved/a.png"⟩)] := by
  decide +kernel

end WallpaperRotation
