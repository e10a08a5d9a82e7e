/-
# Targets with one scope

Two scopes that stand for one tag or one folder have the same candidates, however they are spelled.
Targets that go in order through them get one wallpaper, and come to one position, if they share the
pick; and names of tags are compared by the letter for that.  Where the names of one tag are spelled
in two ways each target goes on from its own position, so that both get the same wallpaper exactly
when the two positions lead to the same one.
-/
import WallpaperRotation.Proofs.Rotation.Succession

namespace WallpaperRotation

/-! ## Scopes that are alike -/

namespace Scope

/-- The scopes stand for one tag, as the names of tags are compared by the library, or for one
folder. -/
def Alike : Scope → Scope → Prop
  | .tag name, .tag title => normalizeTag name = normalizeTag title
  | .folder path, .folder place => path.same place = true
  | _, _ => False

variable {scope other : Scope}

/-- Scopes that are alike are two names of one tag or two paths of one folder. -/
theorem Alike.cases (h : scope.Alike other) :
    (∃ name title, scope = .tag name ∧ other = .tag title ∧
      normalizeTag name = normalizeTag title) ∨
    ∃ path place, scope = .folder path ∧ other = .folder place ∧ path.same place = true := by
  cases scope with
  | all => cases other <;> exact h.elim
  | tag name =>
    cases other with
    | tag title => exact Or.inl ⟨name, title, rfl, rfl, h⟩
    | all | folder place => exact h.elim
  | folder path =>
    cases other with
    | folder place => exact Or.inr ⟨path, place, rfl, rfl, h⟩
    | all | tag title => exact h.elim

/-- Scopes that are alike have the same candidates, or none of them can be had. -/
theorem toOption_candidates_of_alike (h : scope.Alike other) (library : Library)
    (folders : List FilePath) :
    (scope.candidates library folders).toOption = (other.candidates library folders).toOption := by
  obtain ⟨name, title, rfl, rfl, hname⟩ | ⟨path, place, rfl, rfl, hpath⟩ := h.cases
  · have htag : library.tag? name = library.tag? title := by
      unfold Library.tag?
      rw [hname]
    simp only [candidates, htag]
    split <;> rfl
  · exact toOption_candidates_of_same (show (folder path).same (folder place) = true from hpath)
      library folders

/-- Scopes that are alike restrict their targets. -/
theorem ne_all_of_alike (h : scope.Alike other) : scope ≠ .all ∧ other ≠ .all := by
  obtain ⟨name, title, rfl, rfl, -⟩ | ⟨path, place, rfl, rfl, -⟩ := h.cases <;> simp

/-- Scopes that are alike are the same unless they are names of tags that are spelled in two
ways. -/
theorem same_iff_of_alike (h : scope.Alike other) :
    scope.same other = true ↔
      ∀ name title, scope = .tag name → other = .tag title → name = title := by
  obtain ⟨name, title, rfl, rfl, -⟩ | ⟨path, place, rfl, rfl, hpath⟩ := h.cases
  · simp [same]
  · simp [same, hpath]

end Scope

/-! ## Choices in order -/

/-- Among some candidates one is chosen. -/
theorem exists_selectSequential {candidates : List Wallpaper} (hne : candidates ≠ [])
    (cursor : UInt64) : ∃ w, (selectSequential candidates cursor).1 = some w :=
  Option.ne_none_iff_exists'.1 (mt selectSequential_eq_none_iff.1 hne)

/-- Among different candidates two choices in order are the same exactly when they come to the same
position. -/
theorem selectSequential_fst_eq_iff {candidates : List Wallpaper} (hne : candidates ≠ [])
    (hnodup : candidates.Nodup) (cursor other : UInt64) :
    (selectSequential candidates cursor).1 = (selectSequential candidates other).1 ↔
      (selectSequential candidates cursor).2 = (selectSequential candidates other).2 := by
  obtain ⟨v, hv⟩ := exists_selectSequential hne cursor
  obtain ⟨w, hw⟩ := exists_selectSequential hne other
  have hplace : candidates[(selectSequential candidates cursor).2.toNat]? = some v :=
    getElem?_selectSequential hv
  have hother : candidates[(selectSequential candidates other).2.toNat]? = some w :=
    getElem?_selectSequential hw
  rw [hv, hw]
  constructor
  · intro hsame
    rw [← hsame, ← hplace] at hother
    obtain ⟨hlength, -⟩ := List.getElem?_eq_some_iff.1 hplace
    exact UInt64.toNat_inj.1 ((List.getElem?_inj hlength hnodup).1 hother.symm)
  · intro hsame
    rw [← hplace, ← hother, hsame]

namespace Rotator

variable {rotator other : Rotator} {plan : Plan} {applier : Applier} {notifier : Notifier}
  {candidates : List Wallpaper}

/-! ## Picking for some targets -/

/-- The rotator after picking for some targets, one after the other. -/
def pickedEach (picker : Picker) (targets : List Target) (rotator : Rotator) : Rotator :=
  targets.foldl (fun rotator target => (picker rotator target).2) rotator

/-- Rotators that pick alike go on picking alike after picking for some targets. -/
theorem Picker.IsFair.pickedEach {picker : Picker} (hfair : picker.IsFair)
    (h : rotator.PicksLike other) (targets : List Target) :
    (pickedEach picker targets rotator).PicksLike (pickedEach picker targets other) := by
  induction targets generalizing rotator other with
  | nil => exact h
  | cons target targets ih => exact ih (hfair.alike h target).2

/-- Serving targets leaves what picking for them leaves, as far as picks go by it. -/
theorem Picker.IsFair.picksLike_of_forTargets {picker : Picker} (hfair : picker.IsFair)
    {targets : List Target} {outcomes : List Outcome} {after : Rotator}
    (h : forTargets (picker.serve applier notifier) targets rotator = (.ok outcomes, after)) :
    after.PicksLike (Rotator.pickedEach picker targets rotator) := by
  induction targets generalizing rotator outcomes with
  | nil =>
    cases h
    exact PicksLike.refl _
  | cons target targets ih =>
    -- Showing what was picked does not change what the other picks go by.
    have halike : ((picker rotator target).2.presentPick applier notifier target
        (picker rotator target).1).2.PicksLike (picker rotator target).2 :=
      (PicksLike.refl _).presentPick target _
    rcases hstep : picker.serve applier notifier rotator target with ⟨failure | outcome, next⟩
    · rw [forTargets_cons_of_error hstep] at h
      cases h
    · rw [forTargets_cons_of_ok hstep] at h
      rw [show (picker rotator target).2.presentPick applier notifier target
        (picker rotator target).1 = _ from hstep] at halike
      rcases hrest : forTargets (picker.serve applier notifier) targets next with
        ⟨failure | later, last⟩
      · rw [hrest] at h
        cases h
      · rw [hrest] at h
        cases h
        exact (ih hrest).trans (hfair.pickedEach halike targets)

/-- Serving targets comes to the outcomes of what is picked for them, where it ends well. -/
theorem Picker.IsFair.outcomes_of_forTargets {picker : Picker} (hfair : picker.IsFair)
    {targets : List Target} {outcomes : List Outcome} {after : Rotator}
    (h : forTargets (picker.serve applier notifier) targets rotator = (.ok outcomes, after)) :
    outcomes = (pickEach picker targets rotator).map Outcome.ofPick := by
  have hcases := hfair.forTargets_cases applier notifier targets rotator
  rw [h] at hcases
  exact hcases.1

/-! ## Rotating both targets -/

/-- Targets whose scopes are alike are restricted to the same candidates. -/
theorem restriction_eq_of_alike (h : (plan.scope .home).Alike (plan.scope .lock))
    (rotator : Rotator) : rotator.restriction plan .home = rotator.restriction plan .lock := by
  obtain ⟨hhome, hlock⟩ := Scope.ne_all_of_alike h
  unfold restriction
  rw [if_neg hhome, if_neg hlock, Scope.toOption_candidates_of_alike h]

/-- Going in order, targets whose scopes are alike share the pick unless a tag is spelled in two
ways. -/
theorem sharesPick_iff_of_alike (hmode : plan.config.rotation.mode = .sequential)
    (h : (plan.scope .home).Alike (plan.scope .lock)) :
    plan.sharesPick .both = true ↔
      ∀ name title, plan.scope .home = .tag name → plan.scope .lock = .tag title → name = title := by
  rw [← Scope.same_iff_of_alike h]
  simp [Plan.sharesPick, hmode]

/-- The position that a target goes on from when both are rotated: that of the home screen, if the
targets share the pick. -/
def startOf (rotator : Rotator) (plan : Plan) (target : Target) : UInt64 :=
  if plan.sharesPick .both then rotator.state.home.cursor else (rotator.state.target target).cursor

/-- Where both targets go in order through the same candidates, each gets the candidate behind the
position that it goes on from, and is there afterwards. -/
theorem rotate_both_in_order {outcomes : List Outcome} {after : Rotator}
    (hmode : plan.config.rotation.mode = .sequential)
    (hcandidates : ∀ target, (rotator.ready plan).restriction plan target = some candidates)
    (h : rotator.rotate plan .both applier notifier = (.ok outcomes, after)) :
    outcomes = Target.all.map (fun target =>
        Outcome.ofPick (target, (selectSequential candidates (rotator.startOf plan target)).1)) ∧
      ∀ target, (after.state.target target).cursor =
        (selectSequential candidates (rotator.startOf plan target)).2 := by
  have hhome := pick_of_sequential hmode (hcandidates .home)
  have hlock := pick_of_sequential hmode
    ((restriction_congr (library_pick _ plan .home) plan .lock).trans (hcandidates .lock))
  rw [show (rotator.ready plan).state = rotator.state by rw [ready_eq]] at hhome
  rw [hhome] at hlock
  rw [rotate_eq] at h
  cases hshares : plan.sharesPick .both with
  | true =>
    have hstart (target : Target) : rotator.startOf plan target = rotator.state.home.cursor :=
      if_pos hshares
    rw [if_pos hshares, rotateTogether_eq] at h
    have hfair := isFair_made ((rotator.ready plan).pick plan .home).1
    refine ⟨?_, fun target => ?_⟩
    · rw [hfair.outcomes_of_forTargets h, pickEach_made, hhome, List.map_map]
      simp only [hstart]
      rfl
    · -- The lock screen was put at the position of the home screen before anything was shown.
      rw [(hfair.picksLike_of_forTargets h).cursor, hhome, hstart]
      cases target <;> rfl
  | false =>
    have hstart (target : Target) :
        rotator.startOf plan target = (rotator.state.target target).cursor :=
      if_neg (by simp [hshares])
    rw [if_neg (by simp [hshares])] at h
    have hfair := isFair_pick plan
    refine ⟨?_, fun target => ?_⟩
    · rw [hfair.outcomes_of_forTargets h]
      simp only [Selection.targets, Target.all, pickEach, List.map_cons, List.map_nil, hhome, hlock,
        hstart]
      rfl
    · rw [(hfair.picksLike_of_forTargets h).cursor, hstart]
      simp only [pickedEach, Selection.targets, Target.all, List.foldl_cons, List.foldl_nil, hhome,
        hlock]
      cases target <;> rfl

/-- Where both scopes are alike, are available and are gone through in order, the targets share the
pick exactly when it is not so that one tag is spelled in two ways.  In a rotation of both that ends
well each target gets one of the candidates, if there are any; they get the same one exactly when
they come to the same position, and that is when they share the pick or when their positions lead to
the same one. -/
theorem rotate_alike_scopes {operations : List Operation}
    (hlibrary : rotator.library = Library.empty.run operations)
    (hmode : plan.config.rotation.mode = .sequential)
    (halike : (plan.scope .home).Alike (plan.scope .lock))
    (havailable : (plan.scope .home).IsAvailable (rotator.ready plan).library plan.folders) :
    (plan.sharesPick .both = true ↔ ∀ name title,
      plan.scope .home = .tag name → plan.scope .lock = .tag title → name = title) ∧
    ∃ candidates,
      (∀ target, (plan.scope target).candidates (rotator.ready plan).library plan.folders =
        .ok candidates) ∧
      (candidates ≠ [] → ∀ applier notifier outcomes after,
        rotator.rotate plan .both applier notifier = (.ok outcomes, after) →
        ∃ v w, outcomes = [.applied .home v, .applied .lock w] ∧
          (v = w ↔ after.state.home.cursor = after.state.lock.cursor) ∧
          (v = w ↔ plan.sharesPick .both = true ∨
            (selectSequential candidates rotator.state.home.cursor).2 =
              (selectSequential candidates rotator.state.lock.cursor).2)) := by
  refine ⟨sharesPick_iff_of_alike hmode halike, ?_⟩
  obtain ⟨candidates, hhome⟩ := exists_restriction_iff.2 havailable
  have hlock := (restriction_eq_of_alike halike (rotator.ready plan)).symm.trans hhome
  have hcandidates (target : Target) :
      (rotator.ready plan).restriction plan target = some candidates := by
    cases target
    · exact hhome
    · exact hlock
  refine ⟨candidates, fun target => (candidates_eq_of_restriction (hcandidates target)).2,
    fun hne applier notifier outcomes after hrotate => ?_⟩
  obtain ⟨rfl, hcursors⟩ := rotate_both_in_order hmode hcandidates hrotate
  have hready := consistent_ready (Library.consistent_of_eq_run hlibrary) plan
  have hnodup : candidates.Nodup :=
    (sublist_of_restriction hhome).nodup hready.idsDistinct.of_map
  obtain ⟨v, hv⟩ := exists_selectSequential hne (rotator.startOf plan .home)
  obtain ⟨w, hw⟩ := exists_selectSequential hne (rotator.startOf plan .lock)
  have hsame : v = w ↔ (selectSequential candidates (rotator.startOf plan .home)).2 =
      (selectSequential candidates (rotator.startOf plan .lock)).2 := by
    rw [← selectSequential_fst_eq_iff hne hnodup, hv, hw, Option.some_inj]
  refine ⟨v, w, ?_, ?_, ?_⟩
  · simp only [Target.all, List.map_cons, List.map_nil, hv, hw]
    rfl
  · rw [hsame, ← hcursors, ← hcursors]
    rfl
  · rw [hsame]
    cases hshares : plan.sharesPick .both with
    | true => simp [startOf, hshares]
    | false => simp [startOf, hshares, RotationState.target]

/-! ### A tag in two spellings -/

/-- A rotator with two records of one tag, and with the home screen at the second one. -/
def taggedRotator : Rotator :=
  ⟨⟨samplePair, [⟨"day", (IdSet.empty.insert "a").insert "b"⟩]⟩,
    { RotationState.fresh with home := ⟨1, Ledger.empty, none⟩ }, Words.replay [], ⟨[], [], 0⟩, []⟩

/-- The records were put in and tagged. -/
theorem library_taggedRotator :
    taggedRotator.library = Library.empty.run
      [.insert (sampleWallpaper "a") .version, .insert (sampleWallpaper "b") .version,
        .addTag "a" "day", .addTag "b" "day"] := by
  have hfirst : Library.empty.apply (.insert (sampleWallpaper "a") .version) =
      ⟨[sampleWallpaper "a"], []⟩ := by decide +kernel
  simp only [Library.run, List.foldl_cons, List.foldl_nil, hfirst]
  rw [Library.apply_insert_beside (by decide +kernel) (by decide +kernel)]
  decide +kernel

/-- Both targets go in order through the tag, which is spelled in two ways. -/
def spelledPlan : Plan :=
  ⟨{ Config.initial ⟨"walls"⟩ with
      library := ⟨[⟨"walls"⟩], true, .version, false⟩
      rotation := ⟨.sequential, .both, "30m"⟩
      home := ⟨some "Day", none⟩
      lock := ⟨some "day", none⟩ }, ⟨"/home"⟩, sampleTimes 0⟩

/-- The spellings are those of one tag of the library. -/
theorem alike_spelledPlan :
    (spelledPlan.scope .home).Alike (spelledPlan.scope .lock) ∧
      (spelledPlan.scope .home).IsAvailable (taggedRotator.ready spelledPlan).library
        spelledPlan.folders :=
  ⟨show normalizeTag "Day" = normalizeTag "day" by decide +kernel,
    ⟨_, List.mem_singleton_self _, by decide +kernel⟩⟩

/-- Targets that go in order through one tag do not always get the same wallpaper. -/
theorem not_sharesPick_of_alike :
    ¬∀ (operations : List Operation) (rotator : Rotator) (plan : Plan),
      rotator.library = Library.empty.run operations →
      plan.config.rotation.mode = .sequential →
      (plan.scope .home).Alike (plan.scope .lock) →
      (plan.scope .home).IsAvailable (rotator.ready plan).library plan.folders →
      plan.sharesPick .both = true ∧
        ∀ candidates applier notifier outcomes after,
          (plan.scope .home).candidates (rotator.ready plan).library plan.folders =
            .ok candidates → candidates ≠ [] →
          rotator.rotate plan .both applier notifier = (.ok outcomes, after) →
          ∃ w, outcomes = [.applied .home w, .applied .lock w] ∧
            after.state.home.cursor = after.state.lock.cursor := by
  intro hsame
  have hshares := (hsame _ taggedRotator spelledPlan library_taggedRotator rfl alike_spelledPlan.1
    alike_spelledPlan.2).1
  exact absurd hshares (by decide +kernel)

/-- Of two records of a tag that is spelled in two ways each target gets another one. -/
theorem rotate_alike_scopes_spelled :
    ∃ v w after, taggedRotator.rotate spelledPlan .both idleApplier (fun _ _ disk => disk) =
        (.ok [.applied .home v, .applied .lock w], after) ∧
      v ≠ w ∧ after.state.home.cursor ≠ after.state.lock.cursor := by
  obtain ⟨-, candidates, hcandidates, houtcomes⟩ :=
    rotate_alike_scopes library_taggedRotator rfl alike_spelledPlan.1 alike_spelledPlan.2
  have hpair : (spelledPlan.scope .home).candidates (taggedRotator.ready spelledPlan).library
      spelledPlan.folders = .ok samplePair := by decide +kernel
  obtain rfl := Except.ok.inj (hpair.symm.trans (hcandidates .home))
  have hshares : ¬spelledPlan.sharesPick .both = true := by decide +kernel
  obtain ⟨outcomes, after, hrotate⟩ : ∃ outcomes after, taggedRotator.rotate spelledPlan .both
      idleApplier (fun _ _ disk => disk) = (.ok outcomes, after) := by
    rw [rotate_eq, if_neg hshares]
    exact forTargets_eq_ok
      (fun _ target => isOk_presentPick (fun _ _ _ => rfl) _ _ target _) _ _
  obtain ⟨v, w, rfl, hplaces, hsame⟩ := houtcomes (by decide) _ _ _ _ hrotate
  have hdiffer : v ≠ w := mt hsame.1 (by decide +kernel)
  exact ⟨v, w, after, hrotate, hdiffer, mt hplaces.2 hdiffer⟩

end Rotator

end WallpaperRotation
