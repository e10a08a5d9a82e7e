/-
# Refused files

Where duplicates are refused, a file whose digest is the identifier of another record is not put in.
A file that is refused each time that it comes up among some records leaves what stood at its path;
one that is not always refused leaves a record of its own there.
-/
import WallpaperRotation.Proofs.Library.Latest

namespace WallpaperRotation.Library

/-- Among records that are put in one after the other, the file at a path is refused each time that
it comes up. -/
def Refuses (library : Library) (path : FilePath) : List Wallpaper → Prop
  | [] => True
  | w :: records =>
    (w.path.same path = true → ∃ error, library.insert w .reject = .error error) ∧
      (library.apply (.insert w .reject)).Refuses path records

section Refused

variable {library : Library} {path : FilePath} {records : List Wallpaper} {r w : Wallpaper}

/-- An insert is refused exactly when it finds no slot. -/
theorem Consistent.exists_error_iff (h : library.Consistent) :
    (∃ error, library.insert w .reject = .error error) ↔ library.slot? w .reject = none := by
  cases hslot : library.slot? w .reject with
  | none =>
    obtain ⟨-, existing, -, -, -, hrefused⟩ := insert_of_slot?_eq_none hslot
    exact iff_of_true ⟨_, hrefused⟩ rfl
  | some id =>
    refine iff_of_false (fun ⟨error, herror⟩ => ?_) (Option.some_ne_none id)
    rw [h.insert_of_slot hslot] at herror
    cases herror

/-- A file that finds a slot where duplicates are refused is put in as it is. -/
theorem Consistent.mem_apply_insert_reject (h : library.Consistent) {id : String}
    (hslot : library.slot? w .reject = some id) :
    w ∈ (library.apply (.insert w .reject)).wallpapers := by
  obtain rfl := eq_of_slot? (by decide) hslot
  rw [h.apply_insert_of_slot hslot]
  exact h.mem_put.2 (Or.inl rfl)

/-- What stands at the path of a file that is always refused stays. -/
theorem Consistent.mem_insertEach_of_refuses (h : library.Consistent)
    (hr : r ∈ library.wallpapers) (hrefuses : library.Refuses r.path records) :
    r ∈ (library.insertEach .reject records).wallpapers := by
  induction records generalizing library with
  | nil => exact hr
  | cons w records ih =>
    refine ih (h.apply_insert w .reject) ?_ hrefuses.2
    by_cases hpath : w.path.same r.path = true
    · rw [apply_insert_of_slot?_eq_none (h.exists_error_iff.1 (hrefuses.1 hpath))]
      exact hr
    · refine h.mem_apply_insert_of_other (by decide) hr ?_
      rw [FilePath.same_comm]
      simpa using hpath

/-- What stands at the path of a file that was always refused has always stood there. -/
theorem Consistent.mem_of_refuses (h : library.Consistent)
    (hrefuses : library.Refuses r.path records)
    (hr : r ∈ (library.insertEach .reject records).wallpapers) : r ∈ library.wallpapers := by
  induction records generalizing library with
  | nil => exact hr
  | cons w records ih =>
    have hnext := ih (h.apply_insert w .reject) hrefuses.2 hr
    cases hslot : library.slot? w .reject with
    | none =>
      rw [apply_insert_of_slot?_eq_none hslot] at hnext
      exact hnext
    | some id =>
      rw [h.apply_insert_of_slot hslot] at hnext
      rcases h.mem_put.1 hnext with rfl | ⟨hbefore, -, -⟩
      · -- The record that was put in would have been refused.
        have hnone := h.exists_error_iff.1 (hrefuses.1 (FilePath.same_refl w.path))
        rw [hslot] at hnone
        cases hnone
      · exact hbefore

/-- At a path where a record stands, it or one of those put in stands also after some inserts. -/
theorem Consistent.exists_path_insertEach_reject (h : library.Consistent)
    (hr : r ∈ library.wallpapers) (records : List Wallpaper) :
    ∃ v ∈ (library.insertEach .reject records).wallpapers, v.path.same r.path = true ∧
      (v = r ∨ v ∈ records) := by
  induction records generalizing library r with
  | nil => exact ⟨r, hr, FilePath.same_refl _, Or.inl rfl⟩
  | cons w records ih =>
    have hnext := h.apply_insert w .reject
    by_cases hpath : w.path.same r.path = true
    · cases hslot : library.slot? w .reject with
      | none =>
        obtain ⟨v, hv, hsame, heq⟩ := ih h hr
        refine ⟨v, ?_, hsame, heq.imp_right (List.mem_cons_of_mem w)⟩
        show v ∈ ((library.apply (.insert w .reject)).insertEach .reject records).wallpapers
        rw [apply_insert_of_slot?_eq_none hslot]
        exact hv
      | some id =>
        -- The record gives way to that of the file, from which what stands there later comes.
        obtain ⟨v, hv, hsame, heq⟩ := ih hnext (h.mem_apply_insert_reject hslot)
        refine ⟨v, hv, FilePath.same_trans hsame hpath, Or.inr ?_⟩
        rcases heq with rfl | hmem
        · exact List.mem_cons_self
        · exact List.mem_cons_of_mem w hmem
    · have hother : r.path.same w.path = false := by
        rw [FilePath.same_comm]
        simpa using hpath
      have hkept : r ∈ (library.apply (.insert w .reject)).wallpapers :=
        h.mem_apply_insert_of_other (by decide) hr hother
      obtain ⟨v, hv, hsame, heq⟩ := ih hnext hkept
      exact ⟨v, hv, hsame, heq.imp_right (List.mem_cons_of_mem w)⟩

/-- At the path of a file that was not always refused stands a record that was put in. -/
theorem Consistent.exists_of_not_refuses (h : library.Consistent)
    (hnot : ¬library.Refuses path records) :
    ∃ v ∈ (library.insertEach .reject records).wallpapers, v.path.same path = true ∧
      v ∈ records := by
  induction records generalizing library with
  | nil => exact absurd trivial hnot
  | cons w records ih =>
    have hnext := h.apply_insert w .reject
    by_cases hlater : (library.apply (.insert w .reject)).Refuses path records
    · -- Only this time the file was not refused.
      have htaken : ¬(w.path.same path = true → ∃ error, library.insert w .reject = .error error) :=
        fun hfirst => hnot ⟨hfirst, hlater⟩
      rw [h.exists_error_iff, Classical.not_imp] at htaken
      obtain ⟨hpath, hslot⟩ := htaken
      obtain ⟨id, hslot⟩ := Option.ne_none_iff_exists'.1 hslot
      have hput := h.mem_apply_insert_reject hslot
      obtain ⟨v, hv, hsame, heq⟩ := hnext.exists_path_insertEach_reject hput records
      refine ⟨v, hv, FilePath.same_trans hsame hpath, ?_⟩
      rcases heq with rfl | hmem
      · exact List.mem_cons_self
      · exact List.mem_cons_of_mem w hmem
    · obtain ⟨v, hv, hpath, hmem⟩ := ih hnext hlater
      exact ⟨v, hv, hpath, List.mem_cons_of_mem w hmem⟩

/-- Where duplicates are refused, a record of a file that has changed stays exactly when the file is
always refused. -/
theorem Consistent.mem_insertEach_reject_iff (h : library.Consistent)
    (hr : r ∈ library.wallpapers)
    (hchanged : ∀ f ∈ records, f.path.same r.path = true → f.id ≠ r.id) :
    r ∈ (library.insertEach .reject records).wallpapers ↔ library.Refuses r.path records := by
  refine ⟨fun hkept => ?_, h.mem_insertEach_of_refuses hr⟩
  by_contra hnot
  obtain ⟨v, hv, hpath, hmem⟩ := h.exists_of_not_refuses hnot
  have hpaths := (h.insertEach .reject records).pathsDistinct
  rw [eq_of_path_same hpaths hv hkept hpath] at hmem
  exact hchanged r hmem (FilePath.same_refl _) rfl

end Refused

end WallpaperRotation.Library
