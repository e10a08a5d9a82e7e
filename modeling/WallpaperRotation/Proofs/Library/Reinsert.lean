/-
# A file put in again

Where duplicates are kept as versions, a record stays what it is as long as the operations put in,
remove and purge records of other files only and tag.  Putting the file in again updates its record
exactly when every candidate before its identifier is still taken.  When one has become free, the
file moves there, and its old identifier loses its tags.
-/
import WallpaperRotation.Proofs.Library.Latest

namespace WallpaperRotation.Library

/-! ## Operations on other files -/

/-- The record belongs to another file than the one at a path. -/
def isElsewhere (path : FilePath) (w : Wallpaper) : Bool :=
  !w.path.same path

/-- The operation only puts in, as versions, removes or purges records of other files than the one
at a path, or tags. -/
def spares (library : Library) (path : FilePath) : Operation → Bool
  | .insert w policy => policy = .version && isElsewhere path w
  | .remove id => (library.remove? id).all fun removed => isElsewhere path removed.1
  | .removeByPath other => (library.removeByPath? other).all fun removed =>
      isElsewhere path removed.1
  | .purge disk folders => (library.purge disk folders).1.all (isElsewhere path)
  | .sanitize => library.sanitize.1.all (isElsewhere path)
  | .addTag _ _ => true
  | .removeTag _ _ => false
  | .scan disk folders recursive policy =>
    match disk.foundInAll recursive folders with
    | .ok files =>
      let records := scanOrder (disk.records files)
      policy = .version && records.all (isElsewhere path) &&
        ((library.insertEach policy records).purge disk folders).1.all (isElsewhere path)
    | .error _ => true
  | .reopen _ _ => true

/-- Each of the operations, in its turn, spares the file at a path. -/
def sparesAll (library : Library) (path : FilePath) : List Operation → Bool
  | [] => true
  | operation :: operations =>
    library.spares path operation && (library.apply operation).sparesAll path operations

/-! ## Records that are spared -/

section Spared

variable {library : Library} {r : Wallpaper} {path : FilePath}

/-- The record of another file has another path. -/
theorem same_eq_false_of_isElsewhere (hpath : r.path.same path = true) {w : Wallpaper}
    (hw : isElsewhere path w = true) : r.path.same w.path = false := by
  rw [FilePath.same_congr_left hpath, FilePath.same_comm]
  simpa [isElsewhere] using hw

/-- Dropping records of other files leaves a record. -/
theorem Consistent.mem_withoutWhere_of_isElsewhere (h : library.Consistent)
    (hr : r ∈ library.wallpapers) (hpath : r.path.same path = true) {meets : Wallpaper → Bool}
    (hmeets : (library.wallpapers.filter meets).all (isElsewhere path) = true) :
    r ∈ (library.withoutWhere meets).wallpapers := by
  refine h.mem_wallpapers_withoutWhere.2 ⟨hr, ?_⟩
  by_contra hmeet
  rw [Bool.not_eq_false] at hmeet
  have hother := List.all_eq_true.1 hmeets r (List.mem_filter.2 ⟨hr, hmeet⟩)
  rw [isElsewhere, hpath] at hother
  cases hother

/-- A purge of records of other files leaves a record. -/
theorem Consistent.mem_purge_of_isElsewhere (h : library.Consistent) (hr : r ∈ library.wallpapers)
    (hpath : r.path.same path = true) {disk : Disk} {folders : List FilePath}
    (hpurge : (library.purge disk folders).1.all (isElsewhere path) = true) :
    r ∈ (library.purge disk folders).2.wallpapers := by
  rw [h.purge_eq] at hpurge ⊢
  exact h.mem_withoutWhere_of_isElsewhere hr hpath hpurge

/-- A removal of a record of another file leaves a record. -/
theorem Consistent.mem_remove?_of_isElsewhere (h : library.Consistent)
    (hr : r ∈ library.wallpapers) (hpath : r.path.same path = true) {id : String}
    (hremove : ((library.remove? id).all fun removed => isElsewhere path removed.1) = true) :
    r ∈ (((library.remove? id).map Prod.snd).getD library).wallpapers := by
  by_cases hid : id ∈ library.ids
  · obtain ⟨v, hv, rfl⟩ := mem_ids.1 hid
    rw [h.remove?_eq_some hv] at hremove ⊢
    refine mem_wallpapers_without.2 ⟨hr, fun hrv => ?_⟩
    rw [eq_of_id_eq h.idsDistinct hr hv (List.mem_singleton.1 hrv)] at hpath
    rw [Option.all_some, isElsewhere, hpath] at hremove
    cases hremove
  · rw [remove?_eq_none hid]
    exact hr

/-- An operation that spares the file of a record leaves the record. -/
theorem Consistent.mem_apply_of_spares (h : library.Consistent) (hr : r ∈ library.wallpapers)
    (hpath : r.path.same path = true) {operation : Operation}
    (hspares : library.spares path operation = true) :
    r ∈ (library.apply operation).wallpapers := by
  cases operation with
  | insert w policy =>
    rw [spares, Bool.and_eq_true, decide_eq_true_eq] at hspares
    obtain ⟨rfl, hw⟩ := hspares
    exact h.mem_apply_insert_of_other (by decide) hr (same_eq_false_of_isElsewhere hpath hw)
  | remove id => exact h.mem_remove?_of_isElsewhere hr hpath hspares
  | removeByPath other =>
    simp only [spares, removeByPath?] at hspares
    simp only [Library.apply, removeByPath?]
    cases hfind : library.byPath? other with
    | none => exact hr
    | some w =>
      rw [hfind] at hspares
      exact h.mem_remove?_of_isElsewhere hr hpath hspares
  | purge disk folders => exact h.mem_purge_of_isElsewhere hr hpath hspares
  | sanitize =>
    unfold spares at hspares
    unfold Library.apply
    rw [h.sanitize_eq] at hspares ⊢
    exact h.mem_withoutWhere_of_isElsewhere hr hpath hspares
  | addTag id name =>
    simp only [Library.apply, h.addTag_eq]
    split_ifs <;> exact hr
  | removeTag id name => cases hspares
  | scan disk folders recursive policy =>
    cases hfound : disk.foundInAll recursive folders with
    | error failure =>
      simp only [Library.apply, Library.scan, hfound]
      exact hr
    | ok files =>
      simp only [spares, hfound, Bool.and_eq_true, decide_eq_true_eq] at hspares
      obtain ⟨⟨rfl, hrecords⟩, hpurge⟩ := hspares
      rw [apply_scan hfound]
      have hother (w : Wallpaper) (hw : w ∈ scanOrder (disk.records files)) :
          r.path.same w.path = false :=
        same_eq_false_of_isElsewhere hpath (List.all_eq_true.1 hrecords w hw)
      have hmem : r ∈ (library.insertEach .version (scanOrder (disk.records files))).wallpapers :=
        h.mem_insertEach_of_other (by decide) hr hother
      exact (h.insertEach .version _).mem_purge_of_isElsewhere hmem hpath hpurge
  | reopen disk place =>
    rw [h.apply_reopen]
    exact hr

/-- Operations that spare the file of a record leave the record. -/
theorem Consistent.mem_run_of_sparesAll (h : library.Consistent) (hr : r ∈ library.wallpapers)
    (hpath : r.path.same path = true) {operations : List Operation}
    (hspares : library.sparesAll path operations = true) :
    r ∈ (library.run operations).wallpapers := by
  induction operations generalizing library with
  | nil => exact hr
  | cons operation operations ih =>
    rw [sparesAll, Bool.and_eq_true] at hspares
    exact ih (h.apply operation) (h.mem_apply_of_spares hr hpath hspares.1) hspares.2

end Spared

/-! ## Putting the file in again -/

/-- A file that is kept under a candidate is updated there when all candidates before it are
taken. -/
theorem Consistent.insert_version_of_mem {library : Library} (h : library.Consistent)
    {r w : Wallpaper} (hr : r ∈ library.wallpapers) (hpath : r.path.same w.path = true) {k : Nat}
    (hid : r.id = candidateId w.id k) (hheld : ∀ j, j < k → candidateId w.id j ∈ library.ids) :
    ∃ again, library.insert w .version = .ok (.updated r.id, again) ∧
      again.tags = library.tags := by
  have hslot := (h.slot?_version_of_mem hr hpath hid).2 hheld
  refine ⟨library.put { w with id := r.id }, ?_, ?_⟩
  · rw [h.insert_of_slot hslot, outcome, if_pos (id_mem_ids hr)]
  · have hstale : library.dropStale { w with id := r.id } = library :=
      h.dropStale_eq_self_of_mem hr rfl hpath
    rw [tags_put, hstale]

/-- A file that is kept under a candidate moves to an earlier one when not all of these are taken;
its old identifier goes away. -/
theorem Consistent.insert_version_of_free {library : Library} (h : library.Consistent)
    {r w : Wallpaper} (hr : r ∈ library.wallpapers) (hpath : r.path.same w.path = true) {k : Nat}
    (hid : r.id = candidateId w.id k) (hfree : ∃ j, j < k ∧ candidateId w.id j ∉ library.ids) :
    ∃ j outcome again, j < k ∧ library.insert w .version = .ok (outcome, again) ∧
      outcome.id = candidateId w.id j ∧ r.id ∉ again.ids := by
  obtain ⟨j, hslot, hopen, hfirst⟩ := slot?_version library w
  have hne (i : Nat) (hi : i < k) : r.id ≠ candidateId w.id i := fun heq =>
    Nat.ne_of_lt hi (candidateId_injective w.id (heq.symm.trans hid))
  -- All candidates before the slot are taken, so the slot does not come after the free one.
  have hjk : j < k := by
    obtain ⟨i, hi, hfree⟩ := hfree
    by_contra hkj
    exact hfree ((h.isOpen_eq_false_iff_mem_ids hr hpath (hne i hi)).1 (hfirst i (by omega)))
  refine ⟨j, _, _, hjk, h.insert_of_slot hslot, ?_, fun hkept => ?_⟩
  · unfold outcome
    split_ifs <;> rfl
  · rcases h.mem_ids_put.1 hkept with heq | ⟨v, hv, hvid, hother⟩
    · exact hne j hjk heq
    · rw [eq_of_id_eq h.idsDistinct hv hr hvid, hpath] at hother
      cases hother

/-- Where duplicates are kept as versions, let a file have been put in, and then nothing have
happened to it.  Putting it in again updates its record and leaves its tags exactly when all the
candidates before its identifier are still taken.  Otherwise it moves to one of these, and its
identifier goes away. -/
theorem insert_again_iff {earlier later : List Operation} {w w' : Wallpaper} {outcome : Inserted}
    {stored : Library}
    (hinsert : (empty.run earlier).insert w .version = .ok (outcome, stored))
    (hspares : stored.sparesAll w.path later = true) (hid : w'.id = w.id)
    (hpath : w'.path.same w.path = true) :
    ∃ k, outcome.id = candidateId w.id k ∧
      ((∃ again, (stored.run later).insert w' .version = .ok (.updated outcome.id, again) ∧
          again.tagsOf outcome.id = (stored.run later).tagsOf outcome.id) ↔
        ∀ j, j < k → candidateId w.id j ∈ (stored.run later).ids) ∧
      ((∃ j, j < k ∧ candidateId w.id j ∉ (stored.run later).ids) →
        ∃ j moved again, j < k ∧ (stored.run later).insert w' .version = .ok (moved, again) ∧
          moved.id = candidateId w.id j ∧ outcome.id ∉ again.ids) := by
  have hearlier := consistent_empty.run earlier
  obtain ⟨k, hslot, -⟩ := slot?_version (empty.run earlier) w
  rw [hearlier.insert_of_slot hslot] at hinsert
  obtain ⟨rfl, rfl⟩ := Prod.mk.inj (Except.ok.inj hinsert)
  have houtcome : ((empty.run earlier).outcome w (candidateId w.id k)).id = candidateId w.id k := by
    unfold outcome
    split_ifs <;> rfl
  have hstored := hearlier.put { w with id := candidateId w.id k }
  have hr := hstored.mem_run_of_sparesAll (hearlier.mem_put.2 (Or.inl rfl)) (FilePath.same_refl _)
    hspares
  have hagain := hstored.run later
  have hsame : w.path.same w'.path = true := by rw [FilePath.same_comm]; exact hpath
  have hfree := hagain.insert_version_of_free (w := w') hr hsame (k := k) (by rw [hid])
  rw [hid] at hfree
  refine ⟨k, houtcome, ⟨fun ⟨again, hagain', _⟩ => ?_, fun hheld => ?_⟩, fun hnone => ?_⟩
  · -- An update under the old identifier leaves no candidate to which the file could have moved.
    by_contra hnone
    push Not at hnone
    obtain ⟨j, moved, other, hjk, hmoved, hmovedId, -⟩ := hfree hnone
    rw [hmoved] at hagain'
    obtain ⟨rfl, -⟩ := Prod.mk.inj (Except.ok.inj hagain')
    rw [houtcome] at hmovedId
    exact Nat.ne_of_gt hjk (candidateId_injective w.id hmovedId)
  · obtain ⟨again, hinsert', htags⟩ := hagain.insert_version_of_mem (w := w') hr hsame (k := k)
      (by rw [hid]) (by rw [hid]; exact hheld)
    rw [houtcome]
    exact ⟨again, hinsert', by rw [tagsOf, tagsOf, htags]⟩
  · rw [houtcome]
    exact hfree hnone

/-! ## Two copies -/

/-- A wallpaper of the same contents as all others like it. -/
def copyAt (path : String) : Wallpaper :=
  ⟨"h", "copy.png", ⟨path⟩, 1920, 1080, ⟨"walls"⟩, 1024, 0⟩

/-- The library of two copies. -/
def twoCopies : Library :=
  ⟨[{ copyAt "walls/p.png" with id := "h-v2" }, copyAt "walls/q.png"], []⟩

/-- The second copy is kept as a version. -/
theorem insert_second_copy :
    (empty.run [.insert (copyAt "walls/q.png") .version]).insert (copyAt "walls/p.png") .version =
      .ok (.versioned "h-v2", twoCopies) := by
  have hfirst : empty.run [.insert (copyAt "walls/q.png") .version] =
      ⟨[copyAt "walls/q.png"], []⟩ := by decide +kernel
  have hheld : get? ⟨[copyAt "walls/q.png"], []⟩ (copyAt "walls/p.png").id =
      some (copyAt "walls/q.png") := by decide +kernel
  have hpath : (copyAt "walls/q.png").path.same (copyAt "walls/p.png").path = false := by
    decide +kernel
  have hversion : insertVersion ⟨[copyAt "walls/q.png"], []⟩ (copyAt "walls/p.png") =
      (.versioned "h-v2",
        ⟨[copyAt "walls/q.png", { copyAt "walls/p.png" with id := "h-v2" }], []⟩) := by
    decide +kernel
  have horder : precedes (copyAt "walls/q.png") { copyAt "walls/p.png" with id := "h-v2" } =
      false := by decide +kernel
  rw [hfirst, insert, hheld]
  simp only [hpath, hversion, sorted_pair, horder]
  rfl

/-- The second of two copies is updated again as long as the first one is there. -/
theorem insert_again_iff_copy :
    (empty.run [.insert (copyAt "walls/q.png") .version]).insert (copyAt "walls/p.png") .version =
        .ok (.versioned "h-v2", twoCopies) ∧
      twoCopies.sparesAll (copyAt "walls/p.png").path [.addTag "h-v2" "night"] = true ∧
      ∃ again, (twoCopies.run [.addTag "h-v2" "night"]).insert (copyAt "walls/p.png") .version =
          .ok (.updated "h-v2", again) ∧
        again.tagsOf "h-v2" = (twoCopies.run [.addTag "h-v2" "night"]).tagsOf "h-v2" := by
  have hspares : twoCopies.sparesAll (copyAt "walls/p.png").path [.addTag "h-v2" "night"] =
      true := by decide +kernel
  obtain ⟨k, hid, hiff, -⟩ := insert_again_iff insert_second_copy hspares
    (show (copyAt "walls/p.png").id = _ from rfl) (FilePath.same_refl _)
  obtain rfl : 1 = k := candidateId_injective "h" hid
  refine ⟨insert_second_copy, hspares, hiff.2 fun j hj => ?_⟩
  obtain rfl : j = 0 := by omega
  decide +kernel

/-- It is not so that a file to which nothing happened is always updated when it is put in again. -/
theorem not_insert_again_updates :
    ¬ ∀ (earlier later : List Operation) (w : Wallpaper) (outcome : Inserted) (stored : Library),
      (empty.run earlier).insert w .version = .ok (outcome, stored) →
      stored.sparesAll w.path later = true →
      ∃ again, (stored.run later).insert w .version = .ok (.updated outcome.id, again) ∧
        again.tagsOf outcome.id = (stored.run later).tagsOf outcome.id := by
  intro h
  obtain ⟨again, hagain, -⟩ := h _ [.addTag "h-v2" "night", .remove "h"] _ _ _ insert_second_copy
    (by decide +kernel)
  have hnew : (twoCopies.run [.addTag "h-v2" "night", .remove "h"]).insert (copyAt "walls/p.png")
      .version = .ok (.new "h", ⟨[copyAt "walls/p.png"], []⟩) := by decide +kernel
  rw [hnew] at hagain
  cases hagain

end WallpaperRotation.Library
