/-
# What an operation changes in a library

Whatever is done to a library comes down to a few kinds of edits: a record goes with its tags, a
record is put in, a tag is put on a record or taken off.  What a library tells, its records and what
stands under which names, stays as long as no edit undoes it.  No library need be consistent for
that, so it holds of every library that can be loaded.
-/
import WallpaperRotation.Proofs.Library.Pairing

namespace WallpaperRotation.Library

/-! ## Edits -/

/-- A change of a library. -/
inductive Edit where
  /-- A record goes, and its identifier out of all tags. -/
  | remove (id : String)
  /-- A record is put in, or takes the stead of the one with its identifier. -/
  | put (id : String)
  /-- A tag is put on a record. -/
  | tag (id name : String)
  /-- A tag is taken off a record. -/
  | untag (id name : String)
  deriving DecidableEq

/-- The edit is of a record and not of a tag. -/
def Edit.IsOfRecord : Edit → Prop
  | .remove _ | .put _ => True
  | .tag _ _ | .untag _ _ => False

variable {library middle next : Library} {edits others : List Edit}

/-- A library is made of another one by edits, one after the other.  In between records may change
their order. -/
inductive Edited : Library → List Edit → Library → Prop where
  | refl (library : Library) : Edited library [] library
  | arranged {library middle next : Library} {edits : List Edit}
      (htags : middle.tags = library.tags)
      (hrecords : ∀ w, w ∈ middle.wallpapers ↔ w ∈ library.wallpapers)
      (hrest : Edited middle edits next) : Edited library edits next
  | remove {library middle next : Library} {edits : List Edit} {id : String} {w : Wallpaper}
      (h : library.remove? id = some (w, middle)) (hrest : Edited middle edits next) :
      Edited library (.remove id :: edits) next
  | put {library middle next : Library} {edits : List Edit} (id : String)
      (htags : middle.tags = library.tags) (hthere : id ∈ library.ids → id ∈ middle.ids)
      (hothers : ∀ w, w.id ≠ id → (w ∈ middle.wallpapers ↔ w ∈ library.wallpapers))
      (hrest : Edited middle edits next) : Edited library (.put id :: edits) next
  | tag {library middle next : Library} {edits : List Edit} {id name : String}
      (h : library.addTag id name = .ok middle) (hrest : Edited middle edits next) :
      Edited library (.tag id (normalizeTag name) :: edits) next
  | untag {library middle next : Library} {edits : List Edit} {id name : String}
      (h : (library.removeTag id name).2 = middle) (hrest : Edited middle edits next) :
      Edited library (.untag id (normalizeTag name) :: edits) next

/-- Some edits are made behind others. -/
theorem Edited.trans (h : library.Edited edits middle) (hothers : middle.Edited others next) :
    library.Edited (edits ++ others) next := by
  induction h with
  | refl => exact hothers
  | arranged htags hrecords hrest ih => exact .arranged htags hrecords (ih hothers)
  | remove h hrest ih => exact .remove h (ih hothers)
  | put id htags hthere hrecords hrest ih => exact .put id htags hthere hrecords (ih hothers)
  | tag h hrest ih => exact .tag h (ih hothers)
  | untag h hrest ih => exact .untag h (ih hothers)

/-- Putting the records in order leaves them. -/
theorem mem_wallpapers_sorted {w : Wallpaper} :
    w ∈ library.sorted.wallpapers ↔ w ∈ library.wallpapers :=
  (List.mergeSort_perm library.wallpapers precedes).mem_iff

/-- Putting the records in order is no edit. -/
theorem edited_sorted (library : Library) : library.Edited [] library.sorted := by
  have htags : library.sorted.tags = library.tags := rfl
  exact .arranged htags (fun _ => mem_wallpapers_sorted) (.refl library.sorted)

/-- Putting the records in order behind edits is no further edit. -/
theorem Edited.sorted (h : library.Edited edits next) : library.Edited edits next.sorted :=
  edits.append_nil ▸ h.trans (edited_sorted next)

/-- Records that were put in order may have had another one before. -/
theorem edited_of_sorted (library : Library) : library.sorted.Edited [] library := by
  have htags : library.tags = library.sorted.tags := rfl
  exact .arranged htags (fun _ => mem_wallpapers_sorted.symm) (.refl library)

/-! ## What libraries tell -/

/-- Something that a library may tell. -/
inductive Fact where
  /-- The record is there, as it is. -/
  | record (w : Wallpaper)
  /-- There is a record with the identifier. -/
  | known (id : String)
  | unknown (id : String)
  /-- The identifier stands under the name. -/
  | tagged (id name : String)
  | untagged (id name : String)

variable {fact : Fact} {id name : String}

/-- One library is made of another one by edits of records alone. -/
def Refiled (library next : Library) : Prop :=
  ∃ edits, (∀ edit ∈ edits, edit.IsOfRecord) ∧ library.Edited edits next

/-- What is only put in order is made by no edits. -/
theorem Edited.refiled (h : library.Edited [] next) : library.Refiled next :=
  ⟨[], fun _ hedit => absurd hedit List.not_mem_nil, h⟩

/-- Records are edited behind others. -/
theorem Refiled.trans (h : library.Refiled middle) (hothers : middle.Refiled next) :
    library.Refiled next := by
  obtain ⟨edits, hedits, hmiddle⟩ := h
  obtain ⟨others, hothers, hnext⟩ := hothers
  refine ⟨edits ++ others, fun edit hedit => ?_, hmiddle.trans hnext⟩
  exact (List.mem_append.1 hedit).elim (hedits edit) (hothers edit)

/-- Putting the records in order does no more. -/
theorem Refiled.sorted (h : library.Refiled next) : library.Refiled next.sorted :=
  h.imp fun _ ⟨hedits, hnext⟩ => ⟨hedits, hnext.sorted⟩

/-- A removal edits records. -/
theorem refiled_of_remove? {w : Wallpaper} (h : library.remove? id = some (w, next)) :
    library.Refiled next :=
  ⟨[.remove id], List.forall_mem_singleton.2 trivial, .remove h (.refl next)⟩

/-- Putting a record in edits records. -/
theorem refiled_of_put (id : String) (htags : next.tags = library.tags)
    (hthere : id ∈ library.ids → id ∈ next.ids)
    (hothers : ∀ w, w.id ≠ id → (w ∈ next.wallpapers ↔ w ∈ library.wallpapers)) :
    library.Refiled next :=
  ⟨[.put id], List.forall_mem_singleton.2 trivial, .put id htags hthere hothers (.refl next)⟩

/-- Removing records one after the other edits records. -/
theorem refiled_removeAll (library : Library) (gone : List String) :
    library.Refiled (library.removeAll gone).2 := by
  induction gone generalizing library with
  | nil => exact Edited.refiled (.refl library)
  | cons id gone ih =>
    unfold removeAll
    cases hremove : library.remove? id with
    | none => exact ih library
    | some removed => exact (refiled_of_remove? hremove).trans (ih removed.2)

/-- A record under a new identifier is one more. -/
theorem refiled_append (library : Library) (w : Wallpaper) :
    library.Refiled (library.append w) := by
  refine refiled_of_put w.id rfl (fun _ => ?_) fun v hv => ?_
  · exact id_mem_ids (List.mem_append_right _ List.mem_cons_self)
  · have hne : v ≠ w := fun heq => hv (congrArg Wallpaper.id heq)
    simp only [append, List.mem_append, List.mem_singleton, hne, or_false]

/-- Replacing a record leaves those under other identifiers. -/
theorem mem_replaceFirst_of_ne {records : List Wallpaper} {v w : Wallpaper} (h : v.id ≠ w.id) :
    v ∈ replaceFirst (fun other => other.id = w.id) w records ↔ v ∈ records := by
  have hne {other : Wallpaper} (hother : other.id = w.id) : v ≠ other :=
    fun heq => h (heq ▸ hother)
  induction records with
  | nil => rfl
  | cons other records ih =>
    unfold replaceFirst
    split
    · rename_i hid
      rw [List.mem_cons, List.mem_cons, or_iff_right (hne rfl),
        or_iff_right (hne (of_decide_eq_true hid))]
    · exact List.mem_cons.trans ((or_congr_right ih).trans List.mem_cons.symm)

/-- Replacing a record leaves its identifier. -/
theorem mem_map_replaceFirst {records : List Wallpaper} {w : Wallpaper}
    (h : w.id ∈ records.map Wallpaper.id) :
    w.id ∈ (replaceFirst (fun other => other.id = w.id) w records).map Wallpaper.id := by
  induction records with
  | nil => cases h
  | cons other records ih =>
    unfold replaceFirst
    split
    · exact List.mem_cons_self
    · rename_i hid
      have hne : w.id ≠ other.id := fun heq => hid (decide_eq_true heq.symm)
      exact List.mem_cons_of_mem _ (ih ((List.mem_cons.1 h).resolve_left hne))

/-- Overwriting a record edits records. -/
theorem refiled_overwrite (library : Library) (w : Wallpaper) :
    library.Refiled (library.overwrite w) :=
  refiled_of_put w.id rfl mem_map_replaceFirst fun _ => mem_replaceFirst_of_ne

/-- Dropping the stale records of a file edits records. -/
theorem refiled_dropStale (library : Library) (w : Wallpaper) :
    library.Refiled (library.dropStale w) :=
  refiled_removeAll library _

/-- Putting a record under a version of its identifier edits records. -/
theorem refiled_insertVersion (library : Library) (w : Wallpaper) :
    library.Refiled (library.insertVersion w).2 := by
  unfold insertVersion
  dsimp only
  split
  · exact (refiled_dropStale library _).trans (refiled_append _ _)
  · exact refiled_overwrite library _

/-- Putting a record into the library edits records. -/
theorem refiled_insert {w : Wallpaper} {policy : Policy} {outcome : Inserted}
    (h : library.insert w policy = .ok (outcome, next)) : library.Refiled next := by
  unfold insert at h
  split at h
  · obtain ⟨-, rfl⟩ := Prod.mk.inj (Except.ok.inj h)
    exact ((refiled_dropStale library w).trans (refiled_append _ w)).sorted
  · split at h
    · obtain ⟨-, rfl⟩ := Prod.mk.inj (Except.ok.inj h)
      exact (refiled_overwrite library w).sorted
    · cases policy with
      | reject => cases h
      | replace =>
        obtain ⟨-, rfl⟩ := Prod.mk.inj (Except.ok.inj h)
        exact ((refiled_dropStale library w).trans (refiled_overwrite _ w)).sorted
      | version =>
        obtain ⟨-, rfl⟩ := Prod.mk.inj (Except.ok.inj h)
        exact (refiled_insertVersion library w).sorted

/-- Putting records in one after the other edits records, also when some are refused. -/
theorem refiled_insertAll (library : Library) (policy : Policy) (report : ScanReport)
    (records : List Wallpaper) :
    library.Refiled (library.insertAll policy report records).2 := by
  induction records generalizing library report with
  | nil => exact Edited.refiled (.refl library)
  | cons w records ih =>
    unfold insertAll
    split
    · rename_i outcome inserted hinsert
      exact (refiled_insert hinsert).trans (ih inserted _)
    · exact ih library _

/-- Dropping the records without files edits records. -/
theorem refiled_purge (library : Library) (disk : Disk) (folders : List FilePath) :
    library.Refiled (library.purge disk folders).2 :=
  refiled_removeAll library _

/-- Dropping the records that are no images edits records. -/
theorem refiled_sanitize (library : Library) : library.Refiled library.sanitize.2 :=
  refiled_removeAll library _

/-- A scan edits records. -/
theorem refiled_scan {disk : Disk} {folders : List FilePath} {recursive : Bool} {policy : Policy}
    {report : ScanReport} (h : library.scan disk folders recursive policy = .ok (report, next)) :
    library.Refiled next := by
  unfold scan at h
  cases hfound : disk.foundInAll recursive folders with
  | error fault =>
    rw [hfound] at h
    cases h
  | ok files =>
    rw [hfound] at h
    obtain ⟨-, rfl⟩ := Prod.mk.inj (Except.ok.inj h)
    exact (refiled_insertAll library policy _ _).trans (refiled_purge _ disk folders)

end WallpaperRotation.Library
