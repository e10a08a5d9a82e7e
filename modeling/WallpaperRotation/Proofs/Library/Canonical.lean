/-
# One representation

A consistent library is determined by its records and by which identifiers stand under which names:
the order of both lists, and which tags there are, follow from these.  So libraries that operations
made in different ways are equal, and are kept as the same text, as soon as they hold the same; two
records of new identifiers, in particular, may be put in one before the other or the other way
round.
-/
import WallpaperRotation.Proofs.Library.Document
import WallpaperRotation.Proofs.Library.Pairing
import WallpaperRotation.Proofs.Library.Settled

namespace WallpaperRotation

/-- Sets with the same members are the same. -/
theorem IdSet.eq_of_mem_iff {set other : IdSet} (h : ∀ id, id ∈ set.ids ↔ id ∈ other.ids) :
    set = other := by
  have hnodup (s : IdSet) : s.ids.Nodup := by
    refine s.ascending.imp fun {a b} hlt heq => ?_
    rw [heq] at hlt
    exact String.lt_irrefl b hlt
  have hperm : set.ids.Perm other.ids :=
    (List.perm_ext_iff_of_nodup (hnodup set) (hnodup other)).2 h
  have hids : set.ids = other.ids :=
    hperm.eq_of_pairwise (fun a b _ _ hab hba => absurd hba (String.lt_asymm hab))
      set.ascending other.ascending
  cases set
  cases other
  exact IdSet.mk.injEq .. ▸ hids

namespace Library

section Determined

variable {library other : Library}

/-! ## Libraries by what they hold -/

/-- A tag of a consistent library holds what stands under its name. -/
theorem Consistent.mem_ids_iff_pairsIn (h : library.Consistent) {tag : Tag}
    (htag : tag ∈ library.tags) (id : String) :
    id ∈ tag.ids.ids ↔ pairsIn library.tags id tag.name := by
  constructor
  · intro hid
    exact ⟨tag, htag, rfl, hid⟩
  · rintro ⟨found, hfound, hname, hid⟩
    rw [h.eq_of_name_eq htag hfound hname.symm]
    exact hid

/-- Where the same identifiers stand under the same names, the tags of one library are tags of the
other one. -/
theorem Consistent.mem_tags_of_pairsIn (h : library.Consistent) (hother : other.Consistent)
    (hpairs : ∀ id name, pairsIn library.tags id name ↔ pairsIn other.tags id name) {tag : Tag}
    (htag : tag ∈ library.tags) : tag ∈ other.tags := by
  -- The tag is not empty, so something stands under its name in the other library too.
  obtain ⟨id, hid⟩ := List.exists_mem_of_ne_nil _ (h.tagsFilled tag htag)
  obtain ⟨found, hfound, hname, -⟩ := (hpairs id tag.name).1 ⟨tag, htag, rfl, hid⟩
  have hids : tag.ids = found.ids := by
    refine IdSet.eq_of_mem_iff fun id => ?_
    rw [h.mem_ids_iff_pairsIn htag, hother.mem_ids_iff_pairsIn hfound, hname, hpairs]
  have hsame : tag = found := by
    cases tag
    cases found
    exact Tag.mk.injEq .. ▸ ⟨hname.symm, hids⟩
  rw [hsame]
  exact hfound

/-- Where the same identifiers stand under the same names, the tags are the same. -/
theorem Consistent.tags_eq_of_pairsIn (h : library.Consistent) (hother : other.Consistent)
    (hpairs : ∀ id name, pairsIn library.tags id name ↔ pairsIn other.tags id name) :
    library.tags = other.tags := by
  have hnodup {l : Library} (hl : l.Consistent) : l.tags.Nodup := by
    refine hl.namesAscending.imp fun {a b} hlt heq => ?_
    rw [heq] at hlt
    exact String.lt_irrefl b.name hlt
  have hperm : library.tags.Perm other.tags := by
    refine (List.perm_ext_iff_of_nodup (hnodup h) (hnodup hother)).2 fun tag => ⟨?_, ?_⟩
    · exact h.mem_tags_of_pairsIn hother hpairs
    · exact hother.mem_tags_of_pairsIn h fun id name => (hpairs id name).symm
  exact hperm.eq_of_pairwise (fun a b _ _ hab hba => absurd hba (String.lt_asymm hab))
    h.namesAscending hother.namesAscending

/-- Consistent libraries are equal exactly when they have the same records, and the same
identifiers under the same names. -/
theorem Consistent.eq_iff (h : library.Consistent) (hother : other.Consistent) :
    library = other ↔
      (∀ w, w ∈ library.wallpapers ↔ w ∈ other.wallpapers) ∧
        ∀ id name, pairsIn library.tags id name ↔ pairsIn other.tags id name := by
  constructor
  · rintro rfl
    exact ⟨fun w => Iff.rfl, fun id name => Iff.rfl⟩
  · rintro ⟨hrecords, hpairs⟩
    exact eq_of_mem_iff h hother hrecords (h.tags_eq_of_pairsIn hother hpairs)

/-- Consistent libraries are kept as the same text only when they are equal. -/
theorem Consistent.text_eq_iff (h : library.Consistent) (hother : other.Consistent) :
    library.text = other.text ↔ library = other := by
  constructor
  · intro htext
    have hread := ofText_text library
    rw [htext, ofText_text, sorted_eq_self h.ordered, sorted_eq_self hother.ordered] at hread
    exact (Except.ok.inj hread).symm
  · rintro rfl
    rfl

/-! ## Records put in one after the other -/

/-- After a record was put in, the pairs are those of the identifiers that are still there. -/
theorem Consistent.pairsIn_put_iff (h : library.Consistent) (w : Wallpaper) {id name : String} :
    pairsIn (library.put w).tags id name ↔
      pairsIn library.tags id name ∧ id ∈ (library.put w).ids := by
  rw [h.pairsIn_put]
  refine and_congr_right fun hpair => ?_
  rw [not_and, not_not]
  exact ⟨fun hkept => hkept (h.mem_ids_of_pairsIn hpair), fun hid _ => hid⟩

/-- The record is at none of the two paths. -/
def IsBeside (v w u : Wallpaper) : Prop :=
  u.path.same v.path = false ∧ u.path.same w.path = false

/-- The library holds two records, and of another library those that are beside both, with their
places in the tags. -/
structure HoldsBoth (both library : Library) (v w : Wallpaper) : Prop where
  mem_wallpapers : ∀ u, u ∈ both.wallpapers ↔
    u = v ∨ u = w ∨ u ∈ library.wallpapers ∧ IsBeside v w u
  pairsIn : ∀ id name, pairsIn both.tags id name ↔
    pairsIn library.tags id name ∧ ∃ u ∈ library.wallpapers, u.id = id ∧ IsBeside v w u

/-- It does not matter which of two records is named first. -/
theorem HoldsBoth.symm {both : Library} {v w : Wallpaper} (h : both.HoldsBoth library v w) :
    both.HoldsBoth library w v := by
  have hbeside (u : Wallpaper) : IsBeside v w u ↔ IsBeside w v u := and_comm
  refine ⟨fun u => ?_, fun id name => ?_⟩
  · rw [h.mem_wallpapers, or_left_comm, hbeside]
  · rw [h.pairsIn]
    simp only [hbeside]

/-- A library is determined by holding two records beside those of another one. -/
theorem HoldsBoth.eq {both : Library} {v w : Wallpaper} (h : both.HoldsBoth library v w)
    (hother : other.HoldsBoth library v w) (hboth : both.Consistent)
    (hconsistent : other.Consistent) : both = other := by
  refine (hboth.eq_iff hconsistent).2 ⟨fun u => ?_, fun id name => ?_⟩
  · rw [h.mem_wallpapers, hother.mem_wallpapers]
  · rw [h.pairsIn, hother.pairsIn]

variable {v w : Wallpaper}

/-- Two records of new identifiers and different paths that are put in, one after the other, take
the stead of the records at their paths. -/
theorem Consistent.holdsBoth_put_put (h : library.Consistent) (hid : v.id ≠ w.id)
    (hpath : v.path.same w.path = false) (hv : v.id ∉ library.ids) (hw : w.id ∉ library.ids) :
    ((library.put v).put w).HoldsBoth library v w := by
  have hmem (u : Wallpaper) : u ∈ ((library.put v).put w).wallpapers ↔
      u = v ∨ u = w ∨ u ∈ library.wallpapers ∧ IsBeside v w u := by
    rw [(h.put v).mem_put, h.mem_put]
    constructor
    · rintro (rfl | ⟨rfl | ⟨hu, -, hbesideV⟩, -, hbesideW⟩)
      · exact Or.inr (Or.inl rfl)
      · exact Or.inl rfl
      · exact Or.inr (Or.inr ⟨hu, hbesideV, hbesideW⟩)
    · rintro (rfl | rfl | ⟨hu, hbesideV, hbesideW⟩)
      · exact Or.inr ⟨Or.inl rfl, hid, hpath⟩
      · exact Or.inl rfl
      · exact Or.inr ⟨Or.inr ⟨hu, ne_of_mem_of_not_mem (id_mem_ids hu) hv, hbesideV⟩,
          ne_of_mem_of_not_mem (id_mem_ids hu) hw, hbesideW⟩
  refine ⟨hmem, fun id name => ?_⟩
  rw [(h.put v).pairsIn_put_iff, h.pairsIn_put_iff, and_assoc]
  refine and_congr_right fun hpair => ?_
  -- What stands under a name belongs to a record that was there before.
  obtain ⟨old, hold, rfl⟩ := mem_ids.1 (h.mem_ids_of_pairsIn hpair)
  constructor
  · rintro ⟨-, hkept⟩
    obtain ⟨u, hu, huid⟩ := mem_ids.1 hkept
    rcases (hmem u).1 hu with rfl | rfl | ⟨hu, hbeside⟩
    · exact absurd (huid ▸ id_mem_ids hold) hv
    · exact absurd (huid ▸ id_mem_ids hold) hw
    · exact ⟨u, hu, huid, hbeside⟩
  · rintro ⟨u, hu, huid, hbesideV, hbesideW⟩
    exact ⟨h.mem_ids_put.2 (Or.inr ⟨u, hu, huid, hbesideV⟩),
      mem_ids.2 ⟨u, (hmem u).2 (Or.inr (Or.inr ⟨hu, hbesideV, hbesideW⟩)), huid⟩⟩

/-- A record of a new identifier is put in under any policy. -/
theorem Consistent.insert_of_not_mem_ids (h : library.Consistent) (hw : w.id ∉ library.ids)
    (policy : Policy) : library.insert w policy = .ok (.new w.id, library.put w) := by
  have hslot : library.slot? w policy = some w.id := by
    unfold slot?
    rw [get?_eq_none_iff.2 hw]
  rw [h.insert_of_slot hslot, outcome, if_neg hw, if_pos rfl]

/-- Two records of new identifiers are put in one after the other, as new ones, under any policy. -/
theorem Consistent.exists_insert_insert (h : library.Consistent) (hid : v.id ≠ w.id)
    (hv : v.id ∉ library.ids) (hw : w.id ∉ library.ids) (policy : Policy) :
    ∃ first, library.insert v policy = .ok (.new v.id, first) ∧
      first.insert w policy = .ok (.new w.id, (library.put v).put w) := by
  refine ⟨library.put v, h.insert_of_not_mem_ids hv policy,
    (h.put v).insert_of_not_mem_ids ?_ policy⟩
  intro hheld
  rcases h.mem_ids_put.1 hheld with heq | ⟨u, hu, huid, -⟩
  · exact hid heq.symm
  · exact hw (huid ▸ id_mem_ids hu)

end Determined

/-! ## Libraries that operations make -/

/-- Libraries that operations make from the empty one are equal, which is to say that they are kept
as the same text, exactly when they have the same records and the same identifiers under the same
names.  Two records of new identifiers and different paths that are put into such a library make one
library, in whichever order they are put in; both take the stead of what stood at their paths, and
the tags lose it. -/
theorem eq_iff_run_empty (operations : List Operation) :
    (∀ others : List Operation,
      (empty.run operations = empty.run others ↔
        (∀ w, w ∈ (empty.run operations).wallpapers ↔ w ∈ (empty.run others).wallpapers) ∧
          ∀ id name, pairsIn (empty.run operations).tags id name ↔
            pairsIn (empty.run others).tags id name) ∧
      ((empty.run operations).text = (empty.run others).text ↔
        empty.run operations = empty.run others)) ∧
    ∀ (policy : Policy) (v w : Wallpaper), v.id ≠ w.id → v.path.same w.path = false →
      v.id ∉ (empty.run operations).ids → w.id ∉ (empty.run operations).ids →
      ∃ withV withW both,
        (empty.run operations).insert v policy = .ok (.new v.id, withV) ∧
        withV.insert w policy = .ok (.new w.id, both) ∧
        (empty.run operations).insert w policy = .ok (.new w.id, withW) ∧
        withW.insert v policy = .ok (.new v.id, both) ∧
        both.HoldsBoth (empty.run operations) v w := by
  have hconsistent := consistent_empty.run operations
  constructor
  · intro others
    have hothers := consistent_empty.run others
    exact ⟨hconsistent.eq_iff hothers, hconsistent.text_eq_iff hothers⟩
  · intro policy v w hid hpath hv hw
    have hpath' : w.path.same v.path = false := by rw [FilePath.same_comm, hpath]
    obtain ⟨withV, hwithV, hboth⟩ := hconsistent.exists_insert_insert hid hv hw policy
    obtain ⟨withW, hwithW, hboth'⟩ :=
      hconsistent.exists_insert_insert hid.symm hw hv policy
    have hholds := hconsistent.holdsBoth_put_put hid hpath hv hw
    have hholds' := hconsistent.holdsBoth_put_put hid.symm hpath' hw hv
    have hsame := hholds.eq hholds'.symm ((hconsistent.put v).put w) ((hconsistent.put w).put v)
    exact ⟨withV, withW, _, hwithV, hboth, hwithW, hsame ▸ hboth', hholds⟩

/-- Two new images, the first one in the stead of a tagged one, are put in in either order; and once
the tagged one is replaced, nothing tells that it was there. -/
theorem eq_iff_run_empty_stale :
    empty.run [.insert (imageRecord "old" "a.png") .version, .addTag "old" "day",
        .insert (imageRecord "new" "a.png") .version] =
      empty.run [.insert (imageRecord "new" "a.png") .version] ∧
    ∃ first second both,
      (empty.run [.insert (imageRecord "old" "a.png") .version, .addTag "old" "day"]).insert
          (imageRecord "new" "a.png") .reject = .ok (.new "new", first) ∧
        first.insert (imageRecord "other" "b.png") .reject = .ok (.new "other", both) ∧
        (empty.run [.insert (imageRecord "old" "a.png") .version, .addTag "old" "day"]).insert
          (imageRecord "other" "b.png") .reject = .ok (.new "other", second) ∧
        second.insert (imageRecord "new" "a.png") .reject = .ok (.new "new", both) ∧
        (∀ w, w ∈ both.wallpapers ↔
          w = imageRecord "new" "a.png" ∨ w = imageRecord "other" "b.png") ∧
        ∀ id name, ¬pairsIn both.tags id name := by
  have hstart : empty.run [.insert (imageRecord "old" "a.png") .version, .addTag "old" "day"] =
      ⟨[imageRecord "old" "a.png"], [⟨"day", IdSet.empty.insert "old"⟩]⟩ := by decide +kernel
  have hreplaced : empty.run [.insert (imageRecord "old" "a.png") .version, .addTag "old" "day",
      .insert (imageRecord "new" "a.png") .version] = imageLibrary "new" "a.png" := by
    decide +kernel
  have hfresh : empty.run [.insert (imageRecord "new" "a.png") .version] =
      imageLibrary "new" "a.png" := by decide +kernel
  constructor
  · refine ((eq_iff_run_empty _).1 _).1.2 ⟨fun w => ?_, fun id name => ?_⟩
    · rw [hreplaced, hfresh]
    · rw [hreplaced, hfresh]
  · obtain ⟨first, second, both, hfirst, hboth, hsecond, hboth', hholds⟩ :=
      (eq_iff_run_empty [.insert (imageRecord "old" "a.png") .version, .addTag "old" "day"]).2
        .reject (imageRecord "new" "a.png") (imageRecord "other" "b.png") (by decide)
        (by decide +kernel) (by rw [hstart]; decide) (by rw [hstart]; decide)
    -- The only record that was there before is at the path of the first one.
    have hstale : ∀ u ∈ (empty.run [.insert (imageRecord "old" "a.png") .version,
        .addTag "old" "day"]).wallpapers,
        ¬IsBeside (imageRecord "new" "a.png") (imageRecord "other" "b.png") u := by
      rw [hstart]
      intro u hu hbeside
      obtain rfl := List.mem_singleton.1 hu
      exact absurd hbeside.1 (by decide +kernel)
    refine ⟨first, second, both, hfirst, hboth, hsecond, hboth', fun w => ?_, fun id name => ?_⟩
    · rw [hholds.mem_wallpapers]
      constructor
      · rintro (hw | hw | ⟨hw, hbeside⟩)
        · exact Or.inl hw
        · exact Or.inr hw
        · exact absurd hbeside (hstale w hw)
      · rintro (hw | hw)
        · exact Or.inl hw
        · exact Or.inr (Or.inl hw)
    · rw [hholds.pairsIn]
      rintro ⟨-, u, hu, -, hbeside⟩
      exact hstale u hu hbeside

end Library

end WallpaperRotation
