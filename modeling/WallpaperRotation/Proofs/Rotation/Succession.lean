/-
# Picks in order while the library changes

A pick in order goes by a position, which is the index that the last pick had when it was made.  So
it takes the candidate at the index behind that one, whatever became of the list.  That candidate is
the one that follows the last pick in the order of the library as long as records come and go behind
the last pick only; where one appears before it the last pick comes again, and where it is deleted
the next one is left out.
-/
import WallpaperRotation.Proofs.Rotation.Apart

namespace WallpaperRotation

/-! ## Records in order -/

/-- The first record that comes after a given one in order, or else the first of all. -/
def nextAfter (records : List Wallpaper) (w : Wallpaper) : Option Wallpaper :=
  (records.find? fun v => !Library.precedes v w).or records.head?

/-- The number of records that do not come after a given one. -/
def countUpTo (records : List Wallpaper) (w : Wallpaper) : Nat :=
  records.countP fun v => Library.precedes v w

/-- The record at an index, or the first one when there is none there. -/
def atOrFirst (records : List Wallpaper) (index : Nat) : Option Wallpaper :=
  records[index]?.or records.head?

/-- The index that is read in a list of some length: behind the end it is the first one. -/
def wrapped (length index : Nat) : Nat :=
  if index < length then index else 0

section Order

variable {records others : List Wallpaper} {w : Wallpaper}

/-- What is so up to some place of a list fails for the first time at the number of places where it
is so. -/
theorem find?_not_eq_getElem?_countP {α : Type} {p : α → Bool} {list : List α}
    (h : list.Pairwise fun a b => p b = true → p a = true) :
    (list.find? fun a => !p a) = list[list.countP p]? := by
  induction list with
  | nil => rfl
  | cons a list ih =>
    obtain ⟨hfirst, hrest⟩ := List.pairwise_cons.1 h
    by_cases hp : p a = true
    · rw [List.find?_cons_of_neg (by simp [hp]), List.countP_cons_of_pos hp, List.getElem?_cons_succ,
        ih hrest]
    · have hnone : list.countP p = 0 := List.countP_eq_zero.2 fun b hb hpb => hp (hfirst b hb hpb)
      rw [List.find?_cons_of_pos (by simp [hp]), List.countP_cons_of_neg hp, hnone]
      rfl

/-- The record that follows a given one stands behind those that do not come after it. -/
theorem nextAfter_eq (h : records.Pairwise fun a b => Library.precedes a b = true)
    (w : Wallpaper) : nextAfter records w = atOrFirst records (countUpTo records w) := by
  rw [nextAfter, find?_not_eq_getElem?_countP]
  · rfl
  · -- In order, what comes before a record that is up to `w` is up to `w` too.
    exact h.imp fun {a b} hab hb => Library.precedes_trans a b w hab hb

/-- Those that do not come after the record at an index are the ones up to that index. -/
theorem countUpTo_of_getElem? (h : records.Pairwise fun a b => Library.precedes a b = true)
    (hpaths : Library.PathsDistinct records) {index : Nat} (hw : records[index]? = some w) :
    countUpTo records w = index + 1 := by
  induction records generalizing index with
  | nil => cases hw
  | cons v records ih =>
    obtain ⟨hfirst, hrest⟩ := List.pairwise_cons.1 h
    obtain ⟨hapart, hpaths⟩ := List.pairwise_cons.1 hpaths
    unfold countUpTo at ih ⊢
    cases index with
    | zero =>
      obtain rfl : v = w := Option.some.inj hw
      have hnone : records.countP (fun u => Library.precedes u v) = 0 := by
        refine List.countP_eq_zero.2 fun u hu hbefore => ?_
        have hsame := Library.path_same_of_precedes (hfirst u hu) hbefore
        rw [hapart u hu] at hsame
        cases hsame
      rw [List.countP_cons_of_pos (p := fun u => Library.precedes u v) (Library.precedes_refl v),
        hnone]
    | succ index =>
      have hbefore := hfirst w (List.mem_of_getElem? hw)
      rw [List.countP_cons_of_pos (p := fun u => Library.precedes u w) hbefore, ih hrest hpaths hw]

/-- Lists of which the same records do not come after a given one have as many of them. -/
theorem countUpTo_congr (h : records.Nodup) (hothers : others.Nodup)
    (hsame : ∀ v, Library.precedes v w = true → (v ∈ others ↔ v ∈ records)) :
    countUpTo others w = countUpTo records w := by
  rw [countUpTo, countUpTo, List.countP_eq_length_filter, List.countP_eq_length_filter]
  refine List.Perm.length_eq ((List.perm_ext_iff_of_nodup (hothers.filter _) (h.filter _)).2
    fun v => ?_)
  rw [List.mem_filter, List.mem_filter]
  exact and_congr_left (hsame v)

/-- The record at an index, or else the first one, stands at an index of the list. -/
theorem atOrFirst_eq (records : List Wallpaper) (index : Nat) :
    atOrFirst records index = records[wrapped records.length index]? := by
  unfold atOrFirst wrapped
  split
  · rename_i hindex
    rw [List.getElem?_eq_getElem hindex, Option.some_or]
  · rename_i hindex
    rw [List.getElem?_eq_none (Nat.le_of_not_lt hindex), Option.none_or, List.head?_eq_getElem?]

/-- Two indices give one record exactly when the same index is read for them. -/
theorem atOrFirst_eq_iff (h : records.Nodup) (first second : Nat) :
    atOrFirst records first = atOrFirst records second ↔
      wrapped records.length first = wrapped records.length second := by
  rw [atOrFirst_eq, atOrFirst_eq]
  refine ⟨fun hsame => ?_, fun hsame => by rw [hsame]⟩
  by_cases hlength : wrapped records.length first < records.length
  · exact (List.getElem?_inj hlength h).1 hsame
  · -- Only in an empty list is an index read that is behind the end.
    have hempty : records.length = 0 := by
      unfold wrapped at hlength
      split at hlength <;> omega
    simp [wrapped, hempty]

end Order

/-! ## Positions -/

/-- The position behind some candidates; positions end at the greatest number. -/
def placeBehind (count : Nat) : Nat :=
  min count (UInt64.size - 1)

/-- The position behind a cursor is the one behind the candidates up to it. -/
theorem toNat_cursorAfter (cursor : UInt64) :
    (cursorAfter cursor).toNat = placeBehind (cursor.toNat + 1) := by
  have hlt := cursor.toNat_lt
  unfold cursorAfter placeBehind
  split
  · rename_i hsize
    rw [UInt64.toNat_add, UInt64.toNat_one, Nat.mod_eq_of_lt hsize]
    exact (Nat.min_eq_left (Nat.le_sub_one_of_lt hsize)).symm
  · rename_i hsize
    simp only [UInt64.size] at hsize ⊢
    omega

/-- A choice in order is the candidate behind the cursor or the first one. -/
theorem selectSequential_fst (candidates : List Wallpaper) (cursor : UInt64) :
    (selectSequential candidates cursor).1 =
      atOrFirst candidates (placeBehind (cursor.toNat + 1)) := by
  rw [← toNat_cursorAfter]
  unfold selectSequential atOrFirst
  cases candidates[(cursorAfter cursor).toNat]? <;> rfl

/-! ## Candidates -/

namespace Rotator

variable {rotator : Rotator} {plan : Plan} {target kept : Target} {candidates : List Wallpaper}

/-- The candidates of a restricted target stand in the order of the library. -/
theorem sublist_of_restriction (h : rotator.restriction plan target = some candidates) :
    candidates.Sublist rotator.library.wallpapers := by
  obtain ⟨-, hcandidates⟩ := candidates_eq_of_restriction h
  cases hscope : plan.scope target with
  | all =>
    rw [hscope] at hcandidates
    cases hcandidates
    exact List.Sublist.refl _
  | tag name =>
    rw [hscope] at hcandidates
    obtain ⟨tag, -, rfl⟩ := Scope.candidates_tag_eq_ok_iff.1 hcandidates
    exact List.filter_sublist
  | folder path =>
    rw [hscope] at hcandidates
    obtain ⟨-, rfl⟩ := Scope.candidates_folder_eq_ok_iff.1 hcandidates
    exact List.filter_sublist

/-! ## What happens between picks -/

/-- The target keeps its position, and the library stays consistent. -/
structure Keeps (kept : Target) (before after : Rotator) : Prop where
  cursor : (after.state.target kept).cursor = (before.state.target kept).cursor
  consistent : before.library.Consistent → after.library.Consistent

/-- A rotator keeps its own positions. -/
theorem Keeps.refl (kept : Target) (rotator : Rotator) : Keeps kept rotator rotator :=
  ⟨rfl, id⟩

/-- What is kept twice is kept. -/
theorem Keeps.trans {before middle after : Rotator} (h : Keeps kept before middle)
    (hafter : Keeps kept middle after) : Keeps kept before after :=
  ⟨hafter.cursor.trans h.cursor, fun hbefore => hafter.consistent (h.consistent hbefore)⟩

/-- Dropping a file leaves all positions. -/
theorem keeps_dropFile (rotator : Rotator) (path : FilePath) :
    Keeps kept rotator (rotator.dropFile path).2 := by
  have hcursor (state : RotationState) (hhome : state.home = forget path rotator.state.home)
      (hlock : state.lock = forget path rotator.state.lock) :
      (state.target kept).cursor = (rotator.state.target kept).cursor := by
    cases kept with
    | home => exact (congrArg TargetState.cursor hhome).trans (cursor_forget _ _)
    | lock => exact (congrArg TargetState.cursor hlock).trans (cursor_forget _ _)
  unfold dropFile
  cases hremove : rotator.library.removeByPath? path with
  | none => exact ⟨hcursor _ rfl rfl, id⟩
  | some removed =>
    refine ⟨hcursor _ rfl rfl, fun h => ?_⟩
    have hremoved := h.apply (.removeByPath path)
    simp only [Library.apply, hremove] at hremoved
    exact hremoved

/-- Deleting what a target shows leaves all positions. -/
theorem keeps_deleteCurrent (rotator : Rotator) (target : Target) (applier : Applier) :
    Keeps kept rotator (rotator.deleteCurrent target applier).2 := by
  unfold deleteCurrent
  split
  · exact Keeps.refl kept rotator
  · split
    · exact ⟨rfl, id⟩
    · dsimp only
      split
      · exact ⟨rfl, id⟩
      · split
        · exact ⟨rfl, id⟩
        · refine Keeps.trans ?_ (keeps_dropFile _ _)
          exact ⟨rfl, id⟩

/-- Something that happens between two picks for a target. -/
inductive Interlude where
  /-- An operation on the library: an insert, a removal, a scan or any other. -/
  | change (operation : Operation)
  /-- What a target shows is deleted. -/
  | delete (target : Target) (applier : Applier)
  /-- What was picked for a target is shown. -/
  | present (target : Target) (pick : Option Wallpaper) (applier : Applier) (notifier : Notifier)
  /-- The lock screen is put at the position of the home screen. -/
  | align
  /-- A pick for a target. -/
  | pick (plan : Plan) (target : Target)
  | rotate (rotation : Rotation)
  /-- The disk becomes another one. -/
  | edit (disk : Disk)

/-- The interlude has no pick for the target, and does not put it at the position of another one. -/
def Interlude.Spares (kept : Target) : Interlude → Prop
  | .align => kept ≠ .lock
  | .pick _ target => kept ≠ target
  | .rotate rotation => kept ∉ rotation.selection.targets
  | .change _ | .delete _ _ | .present _ _ _ _ | .edit _ => True

/-- The rotator after an interlude. -/
def undergo (rotator : Rotator) : Interlude → Rotator
  | .change operation => { rotator with library := rotator.library.apply operation }
  | .delete target applier => (rotator.deleteCurrent target applier).2
  | .present target pick applier notifier =>
    (rotator.presentPick applier notifier target pick).2
  | .align => rotator.align
  | .pick plan target => (rotator.pick plan target).2
  | .rotate rotation => (rotation.make rotator).2
  | .edit disk => { rotator with disk := disk }

/-- The rotator after interludes, one after the other. -/
def undergoAll (rotator : Rotator) (interludes : List Interlude) : Rotator :=
  interludes.foldl undergo rotator

/-- An interlude that spares a target leaves its position. -/
theorem keeps_undergo {interlude : Interlude} (h : interlude.Spares kept) (rotator : Rotator) :
    Keeps kept rotator (rotator.undergo interlude) := by
  cases interlude with
  | change operation => exact ⟨rfl, fun hconsistent => hconsistent.apply operation⟩
  | delete target applier => exact keeps_deleteCurrent rotator target applier
  | present target pick applier notifier =>
    have halike : (rotator.presentPick applier notifier target pick).2.PicksLike rotator :=
      (PicksLike.refl rotator).presentPick target pick
    refine ⟨halike.cursor kept, fun hconsistent => ?_⟩
    simp only [undergo, halike.library]
    exact hconsistent
  | align =>
    cases kept with
    | home => exact ⟨rfl, id⟩
    | lock => exact absurd rfl h
  | pick plan target =>
    refine ⟨congrArg TargetState.cursor (target_pick_of_ne h rotator plan), fun hconsistent => ?_⟩
    simp only [undergo, library_pick]
    exact hconsistent
  | rotate rotation =>
    refine ⟨congrArg TargetState.cursor (target_rotate_of_not_mem h rotator _ _ _),
      fun hconsistent => ?_⟩
    simp only [undergo, Rotation.make, library_rotate]
    exact consistent_ready hconsistent rotation.plan
  | edit disk => exact ⟨rfl, id⟩

/-- Interludes that spare a target leave its position. -/
theorem keeps_undergoAll {interludes : List Interlude}
    (h : ∀ interlude ∈ interludes, interlude.Spares kept) (rotator : Rotator) :
    Keeps kept rotator (rotator.undergoAll interludes) := by
  induction interludes generalizing rotator with
  | nil => exact Keeps.refl kept rotator
  | cons interlude interludes ih =>
    obtain ⟨hfirst, hrest⟩ := List.forall_mem_cons.1 h
    exact (keeps_undergo hfirst rotator).trans (ih hrest (rotator.undergo interlude))

/-! ## Two picks in a row -/

/-- A pick in order leaves the target at the position of what was picked. -/
theorem getElem?_cursor_pick {w : Wallpaper} (hmode : plan.config.rotation.mode = .sequential)
    (hcandidates : rotator.restriction plan target = some candidates)
    (hpick : (rotator.pick plan target).1 = some w) :
    candidates[((rotator.pick plan target).2.state.target target).cursor.toNat]? = some w := by
  have hremembers := remembers_pick hpick
  have hsame : (rotator.pick plan target).2.restriction plan target = some candidates := by
    rw [← hcandidates]
    exact restriction_congr (library_pick _ _ _) plan target
  simpa only [Remembers, hsame, hmode] using hremembers

/-- Two picks in order for a target, with anything in between but a pick for that target: other
settings, changes of the library, deletions, showings and rotations of the other target.  The second
one takes the candidate at the index that is the number of candidates that did not come after the
first one when that was picked, or the first candidate when there is none there.  So it takes the
candidate that follows the first one in order exactly when the same index is read for that number
and for the number of candidates that do not come after the first one now; in particular when the
candidates that do not come after the first one are still the same. -/
theorem pick_after_pick (operations : List Operation) (rotator : Rotator) (plan later : Plan)
    (target : Target) (interludes : List Interlude) (w : Wallpaper)
    {candidates others : List Wallpaper} {last : Rotator}
    (hlibrary : rotator.library = Library.empty.run operations)
    (hmode : plan.config.rotation.mode = .sequential)
    (hcandidates : rotator.restriction plan target = some candidates)
    (hpick : (rotator.pick plan target).1 = some w)
    (hspares : ∀ interlude ∈ interludes, interlude.Spares target)
    (hlast : (rotator.pick plan target).2.undergoAll interludes = last)
    (hlater : later.config.rotation.mode = .sequential)
    (hothers : last.restriction later target = some others) :
    (last.pick later target).1 = atOrFirst others (placeBehind (countUpTo candidates w)) ∧
      ((last.pick later target).1 = nextAfter others w ↔
        wrapped others.length (placeBehind (countUpTo candidates w)) =
          wrapped others.length (countUpTo others w)) ∧
      (others.length < UInt64.size →
        (∀ v, Library.precedes v w = true → (v ∈ others ↔ v ∈ candidates)) →
        (last.pick later target).1 = nextAfter others w) := by
  have hconsistent : rotator.library.Consistent := by
    rw [hlibrary]
    exact Library.consistent_empty.run operations
  have hkeeps := keeps_undergoAll hspares (rotator.pick plan target).2
  rw [hlast] at hkeeps
  have hlastConsistent : last.library.Consistent := by
    refine hkeeps.consistent ?_
    rw [library_pick]
    exact hconsistent
  have hsub := sublist_of_restriction hcandidates
  have hothersSub := sublist_of_restriction hothers
  have hnodup : others.Nodup := hlastConsistent.idsDistinct.of_map.sublist hothersSub
  have hordered := hlastConsistent.ordered.sublist hothersSub
  -- The number of candidates up to the first pick is one more than the position it was left at.
  have hcount : countUpTo candidates w =
      ((rotator.pick plan target).2.state.target target).cursor.toNat + 1 :=
    countUpTo_of_getElem? (hconsistent.ordered.sublist hsub)
      (List.Pairwise.sublist hsub hconsistent.pathsDistinct)
      (getElem?_cursor_pick hmode hcandidates hpick)
  have hsecond : (last.pick later target).1 =
      atOrFirst others (placeBehind (countUpTo candidates w)) := by
    rw [pick_of_sequential hlater hothers, selectSequential_fst, hkeeps.cursor, hcount]
  have hiff : (last.pick later target).1 = nextAfter others w ↔
      wrapped others.length (placeBehind (countUpTo candidates w)) =
        wrapped others.length (countUpTo others w) := by
    rw [hsecond, nextAfter_eq hordered, atOrFirst_eq_iff hnodup]
  refine ⟨hsecond, hiff, fun hlength hsame => hiff.2 ?_⟩
  have hcandidatesNodup : candidates.Nodup := hconsistent.idsDistinct.of_map.sublist hsub
  rw [← countUpTo_congr hcandidatesNodup hnodup hsame, placeBehind, Nat.min_eq_left]
  exact (List.countP_le_length).trans (Nat.le_sub_one_of_lt hlength)

/-! ### A record that appears -/

/-- The settings for picks in order for the lock screen from a folder. -/
def folderPlan : Plan := (Rotation.apartRotation .lock).plan

/-- A rotator with one record. -/
def singleRotator (id : String) : Rotator :=
  ⟨⟨[sampleWallpaper id], []⟩, RotationState.fresh, Words.replay [], ⟨[], [], 0⟩, []⟩

/-- A rotator that picked its only record for the lock screen before another one appeared. -/
def joinedRotator (id other : String) : Rotator :=
  ((singleRotator id).pick folderPlan .lock).2.undergo
    (.change (.insert (sampleWallpaper other) .version))

/-- The next pick is made from both records. -/
theorem restriction_joinedRotator {id other : String}
    (hid : (sampleWallpaper id).id ≠ (sampleWallpaper other).id)
    (hpath : (sampleWallpaper id).path.same (sampleWallpaper other).path = false)
    (hpair : (if Library.precedes (sampleWallpaper id) (sampleWallpaper other) then
        [sampleWallpaper id, sampleWallpaper other]
      else [sampleWallpaper other, sampleWallpaper id]) = samplePair) :
    (joinedRotator id other).restriction folderPlan .lock = some samplePair := by
  have hlibrary : (joinedRotator id other).library = ⟨samplePair, []⟩ := by
    rw [← hpair, ← Library.apply_insert_beside hid hpath .version]
    simp only [joinedRotator, undergo, library_pick]
    rfl
  unfold restriction
  rw [hlibrary]
  decide +kernel

/-- Picks in order do not follow the order of the records: the record that was picked is picked once
more when another one has appeared before it. -/
theorem not_pick_eq_nextAfter :
    ¬∀ (operations : List Operation) (rotator : Rotator) (plan : Plan) (target : Target)
        (v w : Wallpaper) (policy : Policy) (candidates others : List Wallpaper) (last : Rotator),
      rotator.library = Library.empty.run operations →
      plan.config.rotation.mode = .sequential →
      rotator.restriction plan target = some candidates →
      (rotator.pick plan target).1 = some w →
      (rotator.pick plan target).2.undergo (.change (.insert v policy)) = last →
      last.restriction plan target = some others →
      (last.pick plan target).1 = nextAfter others w := by
  intro hfollows
  have hothers : (joinedRotator "b" "a").restriction folderPlan .lock = some samplePair :=
    restriction_joinedRotator (by decide) (by decide +kernel) (by decide +kernel)
  have hagain : ((joinedRotator "b" "a").pick folderPlan .lock).1 = some (sampleWallpaper "b") := by
    rw [pick_of_sequential rfl hothers]
    decide +kernel
  have hnext := hfollows [.insert (sampleWallpaper "b") .version] (singleRotator "b") folderPlan
    .lock (sampleWallpaper "a") (sampleWallpaper "b") .version _ _ _ (by decide +kernel) rfl
    (show _ = some [sampleWallpaper "b"] by decide +kernel) (by decide +kernel) rfl hothers
  exact absurd (hagain.symm.trans hnext) (by decide +kernel)

/-- A record that appears behind the one that was picked is the next one. -/
theorem pick_after_pick_behind :
    ((joinedRotator "a" "b").pick folderPlan .lock).1 = some (sampleWallpaper "b") := by
  have hothers : (joinedRotator "a" "b").restriction folderPlan .lock = some samplePair :=
    restriction_joinedRotator (by decide) (by decide +kernel) (by decide +kernel)
  have hbehind : ∀ v, Library.precedes v (sampleWallpaper "a") = true →
      (v ∈ samplePair ↔ v ∈ [sampleWallpaper "a"]) := by
    intro v hv
    have hnot : v ≠ sampleWallpaper "b" := by
      rintro rfl
      exact absurd hv (by decide +kernel)
    simp [samplePair, hnot]
  have hcandidates : (singleRotator "a").restriction folderPlan .lock =
      some [sampleWallpaper "a"] := by decide +kernel
  have hspares : ∀ interlude ∈ [Interlude.change (.insert (sampleWallpaper "b") .version)],
      interlude.Spares .lock := List.forall_mem_singleton.2 trivial
  have hnext := (pick_after_pick [.insert (sampleWallpaper "a") .version] (singleRotator "a")
    folderPlan folderPlan .lock _ (sampleWallpaper "a") (by decide +kernel) rfl hcandidates
    (by decide +kernel) hspares rfl rfl hothers).2.2 (by decide) hbehind
  exact hnext.trans (by decide +kernel)

end Rotator

end WallpaperRotation
