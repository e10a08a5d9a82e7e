/-
# Targets apart

A rotation leaves a target alone that it is not for.  Where both targets go in order through scopes
of their own, one of them gets the same wallpapers, and comes to the same state, whether the other
one is rotated beside it or not.
-/
import WallpaperRotation.Proofs.Rotation.InScope
import WallpaperRotation.Proofs.Rotation.InTurn

namespace WallpaperRotation

namespace Rotator

variable {rotator other : Rotator} {plan : Plan} {applier : Applier} {notifier : Notifier}
  {target kept : Target}

/-! ## What a rotation leaves -/

/-- What is picked and shown for one target, or fails to be shown, leaves the other one. -/
theorem target_serve_of_ne (h : kept ≠ target) (rotator : Rotator) (plan : Plan) :
    (Picker.serve (fun rotator target => rotator.pick plan target) applier notifier rotator
      target).2.state.target kept = rotator.state.target kept := by
  rw [← target_pick_of_ne h rotator plan, Picker.serve]
  rcases presentPick_cases (rotator.pick plan target).2 applier notifier target
    (rotator.pick plan target).1 with ⟨after, hpresent, hserves, -⟩ | ⟨w, failure, disk, -, -, hpresent⟩
  · rw [hpresent]
    refine hserves.others kept ?_
    rw [List.map_singleton, Outcome.target_ofPick, List.mem_singleton]
    exact h
  · rw [hpresent]
    rfl

/-- A rotation leaves the targets that it is not for. -/
theorem target_rotate_of_not_mem {selection : Selection} (h : kept ∉ selection.targets)
    (rotator : Rotator) (plan : Plan) (applier : Applier) (notifier : Notifier) :
    (rotator.rotate plan selection applier notifier).2.state.target kept =
      rotator.state.target kept := by
  have hshares : ¬plan.sharesPick selection = true := by
    intro hshares
    simp only [Plan.sharesPick, Bool.and_eq_true, decide_eq_true_eq] at hshares
    rw [hshares.1.1] at h
    cases kept <;> exact h (by decide)
  rw [rotate_eq, if_neg hshares]
  refine forTargets_induction_of_mem
    (P := fun after => after.state.target kept = rotator.state.target kept)
    (fun {before} hbefore target htarget => ?_) (by rw [ready_eq])
  rw [← hbefore]
  refine target_serve_of_ne (fun hsame => h ?_) before plan
  rwa [hsame]

/-- A rotation leaves the library that it is ready with. -/
theorem library_rotate (rotator : Rotator) (plan : Plan) (selection : Selection)
    (applier : Applier) (notifier : Notifier) :
    (rotator.rotate plan selection applier notifier).2.library = (rotator.ready plan).library := by
  rw [rotate_eq]
  split
  · rw [rotateTogether_eq]
    refine forTargets_induction (P := fun after => after.library = (rotator.ready plan).library)
      (fun hbefore target => ?_) Target.all (library_pick _ plan .home)
    rw [library_presentPick, hbefore]
  · refine forTargets_induction (P := fun after => after.library = (rotator.ready plan).library)
      (fun hbefore target => ?_) selection.targets rfl
    rw [library_presentPick, library_pick, hbefore]

/-! ## Agreeing on one target -/

/-- Two rotators have the same library, the same ledger for it, and the same state of a target. -/
structure AgreesOn (target : Target) (rotator other : Rotator) : Prop where
  library : rotator.library = other.library
  shared : rotator.state.library = other.state.library
  state : rotator.state.target target = other.state.target target

variable {candidates : List Wallpaper}

/-- Rotators that agree on a target pick the same for it in order, and go on agreeing. -/
theorem AgreesOn.pick (h : AgreesOn kept rotator other)
    (hmode : plan.config.rotation.mode = .sequential)
    (hcandidates : rotator.restriction plan kept = some candidates) :
    (rotator.pick plan kept).1 = (other.pick plan kept).1 ∧
      AgreesOn kept (rotator.pick plan kept).2 (other.pick plan kept).2 := by
  have hother : other.restriction plan kept = some candidates := by
    rw [← hcandidates]
    exact restriction_congr h.library.symm plan kept
  rw [pick_of_sequential hmode hcandidates, pick_of_sequential hmode hother, h.state]
  refine ⟨rfl, h.library, ?_, ?_⟩
  · simp only [RotationState.updateTarget, RotationState.library_setTarget, h.shared]
  · simp only [RotationState.updateTarget, RotationState.target_setTarget_self, h.state]

/-- A pick in order for one target leaves what rotators agree on for the other one. -/
theorem AgreesOn.pick_of_ne (h : AgreesOn kept rotator other) (hne : kept ≠ target)
    (hmode : plan.config.rotation.mode = .sequential)
    (hcandidates : rotator.restriction plan target = some candidates) :
    AgreesOn kept (rotator.pick plan target).2 other := by
  refine ⟨?_, ?_, ?_⟩
  · rw [library_pick]
    exact h.library
  · rw [pick_of_sequential hmode hcandidates]
    exact (RotationState.library_setTarget _ _ _).trans h.shared
  · rw [target_pick_of_ne hne]
    exact h.state

/-- Rotators that agree on a target agree after the same was shown on it. -/
theorem AgreesOn.of_serves {after later : Rotator} {outcomes : List Outcome}
    (h : AgreesOn kept rotator other)
    (hserves : Serves applier notifier rotator outcomes after) (halike : after.PicksLike rotator)
    (hlater : Serves applier notifier other outcomes later) (hlike : later.PicksLike other) :
    AgreesOn kept after later where
  library := halike.library.trans (h.library.trans hlike.library.symm)
  shared := halike.shared.trans (h.shared.trans hlike.shared.symm)
  state := by
    have hcursor : (after.state.target kept).cursor = (later.state.target kept).cursor := by
      rw [halike.cursor, hlike.cursor, h.state]
    have hledger : (after.state.target kept).ledger = (later.state.target kept).ledger := by
      rw [halike.ledger, hlike.ledger, h.state]
    have hcurrent : (after.state.target kept).current = (later.state.target kept).current := by
      rw [hserves.current, hlater.current, h.state]
    exact (TargetState.mk.injEq ..).mpr ⟨hcursor, hledger, hcurrent⟩

/-- Rotators that agree on a target agree after something was shown on the other one. -/
theorem AgreesOn.of_serves_of_ne {after : Rotator} {outcome : Outcome}
    (h : AgreesOn kept rotator other) (hne : outcome.target ≠ kept)
    (hserves : Serves applier notifier rotator [outcome] after)
    (halike : after.PicksLike rotator) : AgreesOn kept after other where
  library := halike.library.trans h.library
  shared := halike.shared.trans h.shared
  state := by
    rw [← h.state]
    refine hserves.others kept ?_
    rw [List.map_singleton, List.mem_singleton]
    exact hne.symm

end Rotator

/-! ## Rotations that keep the targets apart -/

namespace Rotation

open Rotator

/-- Both targets go in order through scopes of their own, which are available; the records are not
checked before, and the applier never fails. -/
structure KeepsApart (rotation : Rotation) (library : Library) : Prop where
  sequential : rotation.plan.config.rotation.mode = .sequential
  unchecked : rotation.plan.config.library.validateBeforeRotate = false
  succeeds : ∀ target w disk, (rotation.applier.apply target w disk).1 = .ok ()
  available : ∀ target,
    (rotation.plan.scope target).IsAvailable library rotation.plan.folders
  different : (rotation.plan.scope .home).same (rotation.plan.scope .lock) = false

/-- Picks for a target and shows what was picked. -/
def serve (rotation : Rotation) : Rotator → Target → Except Failure Outcome × Rotator :=
  Picker.serve (fun rotator target => rotator.pick rotation.plan target) rotation.applier
    rotation.notifier

variable {rotation : Rotation} {rotator other : Rotator} {kept target : Target}

/-- What is picked and shown for a target leaves the library. -/
theorem library_serve (rotation : Rotation) (rotator : Rotator) (target : Target) :
    (rotation.serve rotator target).2.library = rotator.library :=
  (library_presentPick _ _ _ target _).trans (library_pick rotator rotation.plan target)

/-- A rotation that does not check the records is ready at once. -/
theorem KeepsApart.ready_eq_self (h : rotation.KeepsApart rotator.library) :
    rotator.ready rotation.plan = rotator := by
  rw [ready, if_neg (by rw [h.unchecked]; exact Bool.false_ne_true)]

/-- A rotation that keeps the targets apart picks and shows for each of them. -/
theorem KeepsApart.make_eq (h : rotation.KeepsApart rotator.library) :
    rotation.make rotator = forTargets rotation.serve rotation.selection.targets rotator := by
  have hshares : ¬rotation.plan.sharesPick rotation.selection = true := by
    simp [Plan.sharesPick, h.different]
  rw [make, rotate_eq, if_neg hshares, h.ready_eq_self]
  rfl

/-- A rotation that keeps the targets apart leaves the library. -/
theorem KeepsApart.library_make (h : rotation.KeepsApart rotator.library) :
    (rotation.make rotator).2.library = rotator.library := by
  rw [make, library_rotate, h.ready_eq_self]

/-- What is picked for a target is shown. -/
theorem KeepsApart.exists_serve_eq (h : rotation.KeepsApart rotator.library) (target : Target) :
    ∃ after,
      rotation.serve rotator target =
        (.ok (Outcome.ofPick (target, (rotator.pick rotation.plan target).1)), after) ∧
      Serves rotation.applier rotation.notifier (rotator.pick rotation.plan target).2
        [Outcome.ofPick (target, (rotator.pick rotation.plan target).1)] after ∧
      after.PicksLike (rotator.pick rotation.plan target).2 := by
  rcases presentPick_cases (rotator.pick rotation.plan target).2 rotation.applier
    rotation.notifier target (rotator.pick rotation.plan target).1 with
    hshown | ⟨w, failure, disk, -, hfails, -⟩
  · exact hshown
  · have hok := h.succeeds target w (rotator.pick rotation.plan target).2.disk
    rw [hfails] at hok
    cases hok

/-- Rotators that agree on a target have the same outcome for it, and go on agreeing. -/
theorem KeepsApart.serve_kept (h : rotation.KeepsApart rotator.library)
    (hagree : rotator.AgreesOn kept other) :
    ∃ outcome after later, outcome.target = kept ∧
      rotation.serve rotator kept = (.ok outcome, after) ∧
      rotation.serve other kept = (.ok outcome, later) ∧ after.AgreesOn kept later := by
  obtain ⟨candidates, hcandidates⟩ := exists_restriction_iff.2 (h.available kept)
  obtain ⟨hpick, hnext⟩ := hagree.pick h.sequential hcandidates
  obtain ⟨after, hserve, hserves, halike⟩ := h.exists_serve_eq kept
  obtain ⟨later, hother, hlater, hlike⟩ := (hagree.library ▸ h).exists_serve_eq kept
  rw [← hpick] at hother hlater
  exact ⟨_, after, later, Outcome.target_ofPick _, hserve, hother,
    hnext.of_serves hserves halike hlater hlike⟩

/-- Serving one target leaves what rotators agree on for the other one. -/
theorem KeepsApart.serve_of_ne (h : rotation.KeepsApart rotator.library) (hne : kept ≠ target)
    (hagree : rotator.AgreesOn kept other) :
    ∃ outcome after, outcome.target = target ∧
      rotation.serve rotator target = (.ok outcome, after) ∧ after.AgreesOn kept other := by
  obtain ⟨candidates, hcandidates⟩ := exists_restriction_iff.2 (h.available target)
  obtain ⟨after, hserve, hserves, halike⟩ := h.exists_serve_eq target
  have htarget := Outcome.target_ofPick (target, (rotator.pick rotation.plan target).1)
  exact ⟨_, after, htarget, hserve, (hagree.pick_of_ne hne h.sequential hcandidates).of_serves_of_ne
    (htarget.trans_ne hne.symm) hserves halike⟩

/-- Serving some targets comes, for one of them, to what serving that one alone comes to. -/
theorem KeepsApart.forTargets_serve (h : rotation.KeepsApart rotator.library)
    (hagree : rotator.AgreesOn kept other) (targets : List Target) :
    ∃ outcomes after later,
      forTargets rotation.serve targets rotator = (.ok outcomes, after) ∧
      forTargets rotation.serve (targets.filter (· = kept)) other =
        (.ok (outcomes.filter (·.target = kept)), later) ∧
      after.AgreesOn kept later := by
  -- What the induction carries from target to target is the agreement on the kept one.
  induction targets generalizing rotator other with
  | nil => exact ⟨[], rotator, other, rfl, rfl, hagree⟩
  | cons target targets ih =>
    by_cases hsame : target = kept
    · subst hsame
      obtain ⟨outcome, next, following, htarget, hserve, hother, hnext⟩ := h.serve_kept hagree
      have hlibrary : next.library = rotator.library := by
        rw [← library_serve rotation rotator target, hserve]
      obtain ⟨outcomes, after, later, hrest, hothers, hlast⟩ := ih (hlibrary ▸ h) hnext
      refine ⟨outcome :: outcomes, after, later, ?_, ?_, hlast⟩
      · rw [forTargets_cons_of_ok hserve, hrest]
        rfl
      · rw [List.filter_cons_of_pos (by simp), forTargets_cons_of_ok hother, hothers,
          List.filter_cons_of_pos (by simp [htarget])]
        rfl
    · -- The other rotator does not serve this target, and stays where it is.
      obtain ⟨outcome, next, htarget, hserve, hnext⟩ := h.serve_of_ne (Ne.symm hsame) hagree
      have hlibrary : next.library = rotator.library := by
        rw [← library_serve rotation rotator target, hserve]
      obtain ⟨outcomes, after, later, hrest, hothers, hlast⟩ := ih (hlibrary ▸ h) hnext
      refine ⟨outcome :: outcomes, after, later, ?_, ?_, hlast⟩
      · rw [forTargets_cons_of_ok hserve, hrest]
        rfl
      · rw [List.filter_cons_of_neg (by simpa using hsame), hothers,
          List.filter_cons_of_neg (by simpa [htarget] using hsame)]

/-! ## Runs -/

/-- Makes rotations one after the other. -/
def makeAll : List Rotation → Rotator → List (Except Failure (List Outcome)) × Rotator
  | [], rotator => ([], rotator)
  | rotation :: rotations, rotator =>
    let (result, rotator) := rotation.make rotator
    let (results, last) := makeAll rotations rotator
    (result :: results, last)

/-- Rotations go on from where those before them ended. -/
theorem makeAll_append (rotations others : List Rotation) (rotator : Rotator) :
    makeAll (rotations ++ others) rotator =
      ((makeAll rotations rotator).1 ++ (makeAll others (makeAll rotations rotator).2).1,
        (makeAll others (makeAll rotations rotator).2).2) := by
  induction rotations generalizing rotator with
  | nil => rfl
  | cons rotation rotations ih => simp only [List.cons_append, makeAll, ih]

/-- The outcomes for a target, of rotations that ended well. -/
def outcomesFor (target : Target) (results : List (Except Failure (List Outcome))) :
    List Outcome :=
  results.flatMap fun result => (result.toOption.getD []).filter (·.target = target)

/-- The outcomes of some rotations come before those of others. -/
theorem outcomesFor_append (target : Target)
    (results others : List (Except Failure (List Outcome))) :
    outcomesFor target (results ++ others) = outcomesFor target results ++ outcomesFor target others :=
  List.flatMap_append

/-- The outcomes of the first rotation come first. -/
theorem outcomesFor_ok_cons (target : Target) (outcomes : List Outcome)
    (results : List (Except Failure (List Outcome))) :
    outcomesFor target (.ok outcomes :: results) =
      outcomes.filter (·.target = target) ++ outcomesFor target results :=
  rfl

end Rotation

/-- The selection with a target left out; none where it is of that target alone. -/
def Selection.leavingOut (dropped : Target) (selection : Selection) : Option Selection :=
  match selection, dropped with
  | .home, .home | .lock, .lock => none
  | .home, .lock | .both, .lock => some .home
  | .lock, .home | .both, .home => some .lock

/-- What is left of a selection is the target that is not left out, if it was selected. -/
theorem Selection.targets_leavingOut {kept dropped : Target} (hne : kept ≠ dropped)
    (selection : Selection) :
    selection.targets.filter (· = kept) = ((selection.leavingOut dropped).map targets).getD [] := by
  cases selection <;> cases kept <;> cases dropped <;> first | rfl | exact absurd rfl hne

namespace Rotation

open Rotator

variable {rotation : Rotation} {rotations : List Rotation} {rotator other : Rotator}
  {kept dropped : Target}

/-- The rotation with a target left out; none where it is for that target alone. -/
def leavingOut (dropped : Target) (rotation : Rotation) : Option Rotation :=
  (rotation.selection.leavingOut dropped).map fun selection =>
    { rotation with selection := selection }

/-- A rotation comes, for one target, to what it comes to when the other one is left out. -/
theorem KeepsApart.make_leavingOut (h : rotation.KeepsApart rotator.library)
    (hne : kept ≠ dropped) (hagree : rotator.AgreesOn kept other) :
    ∃ outcomes after, rotation.make rotator = (.ok outcomes, after) ∧
      (∀ result ∈ (makeAll (rotation.leavingOut dropped).toList other).1, result.isOk = true) ∧
      outcomesFor kept (makeAll (rotation.leavingOut dropped).toList other).1 =
        outcomes.filter (·.target = kept) ∧
      after.AgreesOn kept (makeAll (rotation.leavingOut dropped).toList other).2 := by
  obtain ⟨outcomes, after, later, hmake, hother, hlast⟩ :=
    h.forTargets_serve hagree rotation.selection.targets
  refine ⟨outcomes, after, h.make_eq.trans hmake, ?_⟩
  rw [Selection.targets_leavingOut hne] at hother
  unfold leavingOut
  cases hleft : rotation.selection.leavingOut dropped with
  | none =>
    rw [hleft] at hother
    obtain ⟨hnone, rfl⟩ := Prod.mk.inj hother
    refine ⟨fun result hresult => absurd hresult List.not_mem_nil, Except.ok.inj hnone, hlast⟩
  | some selection =>
    rw [hleft] at hother
    have hreduced : ({ rotation with selection := selection } : Rotation).KeepsApart
        other.library := by
      rw [← hagree.library]
      exact ⟨h.sequential, h.unchecked, h.succeeds, h.available, h.different⟩
    have hmade := hreduced.make_eq.trans hother
    simp only [Option.map_some, Option.toList_some, makeAll, hmade]
    refine ⟨fun result hresult => ?_, ?_, hlast⟩
    · rw [List.mem_singleton.1 hresult]
      rfl
    · simp [outcomesFor, Except.toOption]

/-- Rotations come, for one target, to what they come to when the other one is left out. -/
theorem makeAll_leavingOut (h : ∀ rotation ∈ rotations, rotation.KeepsApart rotator.library)
    (hne : kept ≠ dropped) (hagree : rotator.AgreesOn kept other) :
    (∀ result ∈ (makeAll rotations rotator).1, result.isOk = true) ∧
      (∀ result ∈ (makeAll (rotations.filterMap (leavingOut dropped)) other).1,
        result.isOk = true) ∧
      outcomesFor kept (makeAll (rotations.filterMap (leavingOut dropped)) other).1 =
        outcomesFor kept (makeAll rotations rotator).1 ∧
      (makeAll rotations rotator).2.AgreesOn kept
        (makeAll (rotations.filterMap (leavingOut dropped)) other).2 := by
  induction rotations generalizing rotator other with
  | nil => exact ⟨by simp [makeAll], by simp [makeAll], rfl, hagree⟩
  | cons rotation rotations ih =>
    have hfirst := h rotation List.mem_cons_self
    obtain ⟨outcomes, after, hmake, hleft, houtcomes, hnext⟩ := hfirst.make_leavingOut hne hagree
    have hlibrary : after.library = rotator.library := by
      rw [← hfirst.library_make, hmake]
    obtain ⟨hok, hothers, hsame, hlast⟩ := ih
      (fun other hother => hlibrary ▸ h other (List.mem_cons_of_mem _ hother)) hnext
    -- Of the first rotation one or none is left, which is made before those left of the others.
    have hsplit : (rotation :: rotations).filterMap (leavingOut dropped) =
        (rotation.leavingOut dropped).toList ++ rotations.filterMap (leavingOut dropped) := by
      rw [List.filterMap_cons]
      cases rotation.leavingOut dropped <;> rfl
    rw [hsplit, makeAll_append]
    simp only [makeAll, hmake]
    refine ⟨?_, ?_, ?_, hlast⟩
    · exact List.forall_mem_cons.2 ⟨rfl, hok⟩
    · exact List.forall_mem_append.2 ⟨hleft, hothers⟩
    · rw [outcomesFor_append, houtcomes, hsame, outcomesFor_ok_cons]

/-- Targets are apart.  A rotation leaves the targets that it is not for, whatever comes of it.  And
where all rotations keep the targets apart, leaving one target out of them does not change what the
other one gets: two runs from the same library, the same ledger for it and the same state of a
target, however they differ in the other one and in the random words and the disk, come to the same
outcomes for that target, the same state of it and the same ledger for the library. -/
theorem targets_apart :
    (∀ (rotator : Rotator) (rotation : Rotation) (target : Target),
      target ∉ rotation.selection.targets →
      (rotation.make rotator).2.state.target target = rotator.state.target target) ∧
    ∀ (kept dropped : Target) (rotations : List Rotation) (rotator other : Rotator),
      kept ≠ dropped → (∀ rotation ∈ rotations, rotation.KeepsApart rotator.library) →
      rotator.AgreesOn kept other →
      (∀ result ∈ (makeAll rotations rotator).1, result.isOk = true) ∧
        (∀ result ∈ (makeAll (rotations.filterMap (leavingOut dropped)) other).1,
          result.isOk = true) ∧
        outcomesFor kept (makeAll (rotations.filterMap (leavingOut dropped)) other).1 =
          outcomesFor kept (makeAll rotations rotator).1 ∧
        (makeAll rotations rotator).2.AgreesOn kept
          (makeAll (rotations.filterMap (leavingOut dropped)) other).2 :=
  ⟨fun rotator rotation _ h => target_rotate_of_not_mem h rotator rotation.plan rotation.applier
    rotation.notifier, fun _ _ _ _ _ hne h hagree => makeAll_leavingOut h hne hagree⟩

/-- A rotation in order, of the home screen through a tag and of the lock screen through a folder. -/
def apartRotation (selection : Selection) : Rotation where
  plan := ⟨{ Config.initial ⟨"walls"⟩ with
      library := ⟨[⟨"walls"⟩], true, .version, false⟩
      rotation := ⟨.sequential, selection, "30m"⟩
      home := ⟨some "Night", none⟩
      lock := ⟨none, some ⟨"walls"⟩⟩ }, ⟨"/home"⟩, Timestamp.ofEpoch 1709164800 0⟩
  selection := selection
  applier := idleApplier
  notifier := fun _ _ disk => disk

/-- A rotator with two records, one of them tagged, and the lock screen at a position. -/
def apartRotator (cursor : UInt64) : Rotator :=
  ⟨⟨[sampleWallpaper "a", sampleWallpaper "b"], [⟨"night", IdSet.empty.insert "a"⟩]⟩,
    { RotationState.fresh with lock := ⟨cursor, Ledger.empty, none⟩ }, Words.replay [],
    Library.imageDisk, []⟩

/-- A home screen gets the same with and without a lock screen, which gets others meanwhile. -/
theorem targets_apart_night :
    ((apartRotation .home).make (apartRotator 0)).2.state.lock = (apartRotator 0).state.lock ∧
      outcomesFor .home (makeAll [apartRotation .home, apartRotation .home] (apartRotator 9)).1 =
        outcomesFor .home
          (makeAll [apartRotation .both, apartRotation .lock, apartRotation .home]
            (apartRotator 0)).1 ∧
      outcomesFor .lock
          (makeAll [apartRotation .both, apartRotation .lock, apartRotation .home]
            (apartRotator 0)).1 =
        [.applied .lock (sampleWallpaper "b"), .applied .lock (sampleWallpaper "a")] := by
  have hkeeps (selection : Selection) :
      (apartRotation selection).KeepsApart (apartRotator 0).library :=
    { sequential := rfl
      unchecked := rfl
      succeeds := fun _ _ _ => rfl
      available := fun target => by
        cases target with
        | home => exact ⟨_, List.mem_singleton_self _, by decide +kernel⟩
        | lock => exact ⟨_, List.mem_singleton_self _, FilePath.same_refl _⟩
      different := rfl }
  refine ⟨targets_apart.1 _ (apartRotation .home) .lock (by decide), ?_, by decide +kernel⟩
  exact (targets_apart.2 .home .lock
    [apartRotation .both, apartRotation .lock, apartRotation .home] (apartRotator 0)
    (apartRotator 9) (by decide)
    (by simp only [List.forall_mem_cons]; exact ⟨hkeeps _, hkeeps _, hkeeps _, by simp⟩)
    ⟨rfl, rfl, rfl⟩).2.2.1

end Rotation

end WallpaperRotation
