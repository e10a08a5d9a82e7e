/-
# One target after the other

Rotating both targets comes to the same as rotating the home screen and then the lock screen.  The
second of these rotations checks the records once more, and finds them in order.  Where the targets
share a pick, the lock screen gets that pick by itself too when it stands where the home screen
stood.
-/
import WallpaperRotation.Proofs.FilePath.Same
import WallpaperRotation.Proofs.Rotation.Aftermath
import WallpaperRotation.Proofs.Rotation.Persistence

namespace WallpaperRotation

/-! ## Checking records twice -/

/-- Where a file stood on the first disk, one stands on the other; and so do folders. -/
structure Disk.Spares (disk other : Disk) : Prop where
  isFile : ∀ {path}, disk.isFile path = true → other.isFile path = true
  isFolder : ∀ {path}, disk.isFolder path = true → other.isFolder path = true

/-- A disk has all of its own files and folders. -/
theorem Disk.Spares.refl (disk : Disk) : disk.Spares disk :=
  ⟨fun h => h, fun h => h⟩

/-- What is spared twice in turn is spared. -/
theorem Disk.Spares.trans {disk other third : Disk} (h : disk.Spares other)
    (hthird : other.Spares third) : disk.Spares third :=
  ⟨fun hfile => hthird.isFile (h.isFile hfile), fun hfolder => hthird.isFolder (h.isFolder hfolder)⟩

namespace Library

variable {library : Library} {disk other : Disk} {folders : List FilePath}

/-- A record whose file and folder are spared is not lost. -/
theorem isLost_eq_false_of_spares (h : disk.Spares other) {w : Wallpaper}
    (hw : isLost disk folders w = false) : isLost other folders w = false := by
  simp only [isLost, Wallpaper.isBacked, Bool.or_eq_false_iff, Bool.not_eq_false', List.any_eq_true,
    List.mem_filter, Bool.and_eq_true] at hw ⊢
  obtain ⟨⟨folder, ⟨hfolder, hthere⟩, hsame⟩, hfile, hbehind⟩ := hw
  exact ⟨⟨folder, ⟨hfolder, h.isFolder hthere⟩, hsame⟩, h.isFile hfile, h.isFolder hbehind⟩

/-- All records of the library are in order. -/
structure Checked (library : Library) (disk : Disk) (folders : List FilePath) : Prop where
  consistent : library.Consistent
  named : ∀ w ∈ library.wallpapers, isMisnamed w = false
  found : ∀ w ∈ library.wallpapers, isLost disk folders w = false

/-- Checking the records leaves them in order. -/
theorem Consistent.checked (h : library.Consistent) (disk : Disk) (folders : List FilePath) :
    (library.sanitize.2.purge disk folders).2.Checked disk folders := by
  have hnamed : library.sanitize.2.Consistent := by
    rw [h.sanitize_eq]
    exact h.without _
  rw [hnamed.purge_eq]
  refine ⟨hnamed.without _, fun w hw => ?_, fun w hw => ?_⟩
  · rw [hnamed.mem_wallpapers_withoutWhere, h.sanitize_eq, h.mem_wallpapers_withoutWhere] at hw
    exact hw.1.2
  · exact (hnamed.mem_wallpapers_withoutWhere.1 hw).2

/-- Records that are in order stay so where their files and folders are spared. -/
theorem Checked.of_spares (h : library.Checked disk folders) (hspares : disk.Spares other) :
    library.Checked other folders :=
  ⟨h.consistent, h.named, fun w hw => isLost_eq_false_of_spares hspares (h.found w hw)⟩

/-- Checking records that are in order leaves the library as it is. -/
theorem Checked.purge_sanitize (h : library.Checked disk folders) :
    (library.sanitize.2.purge disk folders).2 = library := by
  have hnamed : library.sanitize.2 = library := by
    rw [h.consistent.sanitize_eq]
    exact h.consistent.withoutWhere_eq_self h.named
  rw [hnamed, h.consistent.purge_eq]
  exact h.consistent.withoutWhere_eq_self h.found

end Library

/-- Scopes that are the same have the same candidates, or none of them can be had. -/
theorem Scope.toOption_candidates_of_same {scope other : Scope} (h : scope.same other = true)
    (library : Library) (folders : List FilePath) :
    (scope.candidates library folders).toOption = (other.candidates library folders).toOption := by
  cases scope <;> cases other <;> try cases h
  case all.all => rfl
  case tag.tag name title =>
    obtain rfl : name = title := of_decide_eq_true h
    rfl
  case folder.folder path place =>
    have hfolders : path.same = place.same := funext (FilePath.same_congr_left h)
    have hrecords : library.inFolder path = library.inFolder place :=
      List.filter_congr fun w _ => FilePath.same_congr_right h w.folder
    simp only [candidates, hfolders, hrecords]
    split <;> rfl

/-- Of two scopes that are the same both restrict a target or none. -/
theorem Scope.eq_all_iff_of_same {scope other : Scope} (h : scope.same other = true) :
    scope = .all ↔ other = .all := by
  cases scope <;> cases other <;>
    first | exact Iff.rfl | exact absurd h Bool.false_ne_true | simp

namespace Rotator

variable {rotator : Rotator} {plan : Plan} {applier : Applier} {notifier : Notifier}

/-- The records are in order, where they are checked before a rotation. -/
def IsChecked (rotator : Rotator) (plan : Plan) : Prop :=
  plan.config.library.validateBeforeRotate = true →
    rotator.library.Checked rotator.disk plan.folders

/-- The records are in order once a rotator is ready. -/
theorem isChecked_ready (h : rotator.library.Consistent) (plan : Plan) :
    (rotator.ready plan).IsChecked plan := by
  intro hvalidate
  rw [ready, if_pos hvalidate]
  exact h.checked rotator.disk plan.folders

/-- A rotator whose records are in order is ready. -/
theorem IsChecked.ready_eq_self (h : rotator.IsChecked plan) : rotator.ready plan = rotator := by
  unfold ready
  split
  · rename_i hvalidate
    exact congrArg (fun library => { rotator with library := library }) (h hvalidate).purge_sanitize
  · rfl

/-! ## Steps in turn -/

/-- Steps for some targets that end well are followed by those for others. -/
theorem forTargets_append {step : Rotator → Target → Except Failure Outcome × Rotator}
    {targets : List Target} {outcomes : List Outcome} {middle : Rotator}
    (h : forTargets step targets rotator = (.ok outcomes, middle)) (others : List Target) :
    forTargets step (targets ++ others) rotator =
      ((forTargets step others middle).1.map (outcomes ++ ·), (forTargets step others middle).2) := by
  induction targets generalizing rotator outcomes with
  | nil =>
    cases h
    exact Prod.ext (congrFun Except.map_id _).symm rfl
  | cons target targets ih =>
    rcases hstep : step rotator target with ⟨failure | outcome, next⟩
    · rw [forTargets_cons_of_error hstep] at h
      cases h
    · rw [forTargets_cons_of_ok hstep] at h
      rw [List.cons_append, forTargets_cons_of_ok hstep]
      rcases hrest : forTargets step targets next with ⟨failure | later, after⟩
      · rw [hrest] at h
        cases h
      · rw [hrest] at h
        cases h
        rw [ih hrest]
        cases (forTargets step others after).1 <;> rfl

/-- Where each step comes to an outcome, the steps for some targets end well. -/
theorem forTargets_eq_ok {step : Rotator → Target → Except Failure Outcome × Rotator}
    (hstep : ∀ rotator target, (step rotator target).1.isOk = true) (targets : List Target)
    (rotator : Rotator) :
    ∃ outcomes after, forTargets step targets rotator = (.ok outcomes, after) := by
  induction targets generalizing rotator with
  | nil => exact ⟨[], rotator, rfl⟩
  | cons target targets ih =>
    have hok := hstep rotator target
    rcases hnext : step rotator target with ⟨failure | outcome, next⟩
    · rw [hnext] at hok
      cases hok
    · obtain ⟨outcomes, after, hrest⟩ := ih next
      exact ⟨outcome :: outcomes, after, by rw [forTargets_cons_of_ok hnext, hrest]; rfl⟩

/-- The records stay in order when a wallpaper is picked. -/
theorem IsChecked.pick (h : rotator.IsChecked plan) (target : Target) :
    (rotator.pick plan target).2.IsChecked plan := by
  intro hvalidate
  rw [library_pick, disk_pick]
  exact h hvalidate

/-! ## A shared pick in turn -/

/-- Going in order, a target gets the candidate behind its position. -/
theorem pick_of_sequential {target : Target} {candidates : List Wallpaper}
    (hmode : plan.config.rotation.mode = .sequential)
    (hcandidates : rotator.restriction plan target = some candidates) :
    rotator.pick plan target =
      ((selectSequential candidates (rotator.state.target target).cursor).1,
        { rotator with
          state := rotator.state.updateTarget target fun state =>
            { state with cursor := (selectSequential candidates state.cursor).2 } }) := by
  rw [pick_eq, hcandidates]
  simp only [pickAmong, TargetState.select, hmode]
  rfl

/-- Targets with the same scope are restricted to the same candidates. -/
theorem restriction_eq_of_same (h : (plan.scope .home).same (plan.scope .lock) = true)
    (rotator : Rotator) : rotator.restriction plan .home = rotator.restriction plan .lock := by
  unfold restriction
  rw [Scope.toOption_candidates_of_same h]
  simp only [Scope.eq_all_iff_of_same h]

/-- A lock screen that stands where the home screen stood gets the pick of the home screen, and
stands where the home screen stands. -/
theorem pick_lock_eq_align {candidates : List Wallpaper} {shown : Rotator}
    (hmode : plan.config.rotation.mode = .sequential)
    (hhome : rotator.restriction plan .home = some candidates)
    (hlock : rotator.restriction plan .lock = some candidates)
    (hcursor : rotator.state.home.cursor = rotator.state.lock.cursor)
    (halike : shown.PicksLike (rotator.pick plan .home).2) :
    shown.pick plan .lock = ((rotator.pick plan .home).1, shown.align) := by
  have hcandidates : shown.restriction plan .lock = some candidates := by
    rw [halike.restriction_eq, ← hlock]
    exact restriction_congr (library_pick _ _ _) plan .lock
  have hlast : (shown.state.target .lock).cursor = (rotator.state.target .home).cursor := by
    rw [halike.cursor, target_pick_of_ne (by decide)]
    exact hcursor.symm
  have hnext : shown.state.home.cursor =
      (selectSequential candidates (rotator.state.target .home).cursor).2 := by
    refine (halike.cursor .home).trans ?_
    rw [pick_of_sequential hmode hhome]
    rfl
  rw [pick_of_sequential hmode hcandidates, pick_of_sequential hmode hhome]
  simp only [align, RotationState.updateTarget, hlast, hnext]

section InTurn

variable (happly : ∀ target w disk, applier.apply target w disk = (.ok (), disk))
include happly

/-- What was picked is shown by an applier that does not fail. -/
theorem isOk_presentPick (rotator : Rotator) (notifier : Notifier) (target : Target)
    (pick : Option Wallpaper) :
    (rotator.presentPick applier notifier target pick).1.isOk = true := by
  cases pick with
  | none => rfl
  | some w =>
    simp only [presentPick, present, happly]
    rfl

/-- The records stay in order when what was picked is shown. -/
theorem IsChecked.presentPick (h : rotator.IsChecked plan)
    (htell : plan.config.library.validateBeforeRotate = true →
      ∀ target w disk, Disk.Spares disk (notifier target w disk))
    (target : Target) (pick : Option Wallpaper) :
    (rotator.presentPick applier notifier target pick).2.IsChecked plan := by
  cases pick with
  | none => exact h
  | some w =>
    simp only [Rotator.presentPick, present, happly]
    exact fun hvalidate => (h hvalidate).of_spares (htell hvalidate target w rotator.disk)

/-- Showing what was picked for the home screen before or after aligning the targets comes to the
same. -/
theorem presentPick_align (rotator : Rotator) (notifier : Notifier) (pick : Option Wallpaper) :
    rotator.align.presentPick applier notifier .home pick =
      ((rotator.presentPick applier notifier .home pick).1,
        (rotator.presentPick applier notifier .home pick).2.align) := by
  cases pick with
  | none => rfl
  | some w =>
    simp only [presentPick, present, align, happly]
    rfl

/-- Where both targets go in order through the same candidates, from the same position, a pick for
each of them is the pick that they share. -/
theorem rotateTogether_eq_rotateEach {candidates : List Wallpaper}
    (hmode : plan.config.rotation.mode = .sequential)
    (hhome : rotator.restriction plan .home = some candidates)
    (hlock : rotator.restriction plan .lock = some candidates)
    (hcursor : rotator.state.home.cursor = rotator.state.lock.cursor) (notifier : Notifier) :
    rotator.rotateTogether plan applier notifier =
      rotator.rotateEach plan Target.all applier notifier := by
  rw [rotateTogether_eq, rotateEach, Target.all]
  have halike : ((rotator.pick plan .home).2.presentPick applier notifier .home
      (rotator.pick plan .home).1).2.PicksLike (rotator.pick plan .home).2 :=
    (PicksLike.refl _).presentPick .home _
  have hok := isOk_presentPick happly (rotator.pick plan .home).2 notifier .home
    (rotator.pick plan .home).1
  rcases hpresent : (rotator.pick plan .home).2.presentPick applier notifier .home
    (rotator.pick plan .home).1 with ⟨failure | outcome, shown⟩
  · rw [hpresent] at hok
    cases hok
  · rw [hpresent] at halike
    have htogether := presentPick_align happly (rotator.pick plan .home).2 notifier
      (rotator.pick plan .home).1
    rw [hpresent] at htogether
    simp only [forTargets, htogether, hpresent,
      pick_lock_eq_align hmode hhome hlock hcursor halike]

end InTurn

/-! ## Both targets in turn -/

/-- Rotating both targets comes to the same as rotating the home screen and then the lock screen,
for an applier that succeeds and does not touch the disk: to the same outcomes and events, and to
the same library, state, random words and disk.  Where records are checked before a rotation,
telling people must not take a file or a folder away.  Where the targets share a pick, their scope
must be one that can be had, and they must stand at the same position. -/
theorem rotate_both_eq {operations : List Operation}
    (hlibrary : rotator.library = Library.empty.run operations)
    (happly : ∀ target w disk, applier.apply target w disk = (.ok (), disk))
    (htell : plan.config.library.validateBeforeRotate = true →
      ∀ target w disk, Disk.Spares disk (notifier target w disk))
    (hshared : plan.sharesPick .both = true →
      ((rotator.ready plan).restriction plan .home).isSome ∧
        rotator.state.home.cursor = rotator.state.lock.cursor) :
    ∃ first middle second last,
      rotator.rotate plan .home applier notifier = (.ok first, middle) ∧
        middle.rotate plan .lock applier notifier = (.ok second, last) ∧
        rotator.rotate plan .both applier notifier = (.ok (first ++ second), last) := by
  have hconsistent : rotator.library.Consistent := by
    rw [hlibrary]
    exact Library.consistent_empty.run operations
  have hboth : rotator.rotate plan .both applier notifier =
      (rotator.ready plan).rotateEach plan Target.all applier notifier := by
    rw [rotate_eq]
    split
    · rename_i hshares
      obtain ⟨hsome, hcursor⟩ := hshared hshares
      obtain ⟨candidates, hhome⟩ := Option.isSome_iff_exists.1 hsome
      simp only [Plan.sharesPick, Bool.and_eq_true, decide_eq_true_eq] at hshares
      refine rotateTogether_eq_rotateEach happly hshares.1.2 hhome ?_ ?_ notifier
      · rw [← restriction_eq_of_same hshares.2, hhome]
      · rw [ready_eq]
        exact hcursor
    · rfl
  have hstep (rotator : Rotator) (target : Target) :
      ((rotator.pick plan target).2.presentPick applier notifier target
        (rotator.pick plan target).1).1.isOk = true :=
    isOk_presentPick happly _ notifier target _
  obtain ⟨first, middle, hfirst⟩ := forTargets_eq_ok hstep [.home] (rotator.ready plan)
  obtain ⟨second, last, hsecond⟩ := forTargets_eq_ok hstep [.lock] middle
  -- The records that were checked for the first target are in order for the second one.
  have hmiddle : middle.ready plan = middle := by
    refine IsChecked.ready_eq_self ?_
    rw [← show _ = middle from congrArg Prod.snd hfirst]
    exact forTargets_induction (P := fun rotator => rotator.IsChecked plan)
      (fun h target => (h.pick target).presentPick happly htell target _) [.home]
      (isChecked_ready hconsistent plan)
  refine ⟨first, middle, second, last, hfirst, ?_, ?_⟩
  · rw [rotate_eq, hmiddle]
    exact hsecond
  · rw [hboth]
    exact (forTargets_append hfirst [.lock]).trans (by rw [hsecond]; rfl)

/-- An applier that does nothing. -/
def idleApplier : Applier := ⟨fun _ _ disk => (.ok (), disk), fun _ disk => (.ok (), disk)⟩

/-- A plan in order, with the records checked before: the home screen goes through a folder, and the
lock screen through what is given. -/
def pairPlan (lock : ScopeSetting) : Plan :=
  ⟨{ Config.initial ⟨"walls"⟩ with
      rotation := ⟨.sequential, .both, "30m"⟩
      home := ⟨none, some ⟨"walls"⟩⟩
      lock := lock }, ⟨"/home"⟩, Timestamp.ofEpoch 1709164800 0⟩

/-- A rotator with the records of two images, one of them tagged, before its first rotation. -/
def pairRotator : Rotator :=
  ⟨⟨[Library.imageRecord "a" "a.png", Library.imageRecord "b" "b.png"],
      [⟨"night", IdSet.empty.insert "a"⟩]⟩, RotationState.fresh, Words.replay [],
    ⟨[(["walls"], .folder true), (["walls", "a.png"], .file Library.imageBytes 10),
      (["walls", "b.png"], .file Library.imageBytes 10)], [], 0⟩, []⟩

/-- The records were put in, and one of them tagged. -/
theorem library_pairRotator :
    pairRotator.library = Library.empty.run
      [.insert (Library.imageRecord "a" "a.png") .version,
        .insert (Library.imageRecord "b" "b.png") .version, .addTag "a" "night"] := by
  have hfirst : Library.empty.apply (.insert (Library.imageRecord "a" "a.png") .version) =
      ⟨[Library.imageRecord "a" "a.png"], []⟩ := by decide +kernel
  simp only [Library.run, List.foldl_cons, List.foldl_nil, hfirst]
  rw [Library.apply_insert_beside (by decide +kernel) (by decide +kernel)]
  decide +kernel

/-- Of two images each target gets one of its own in turn where the lock screen goes through the
tag, and both get the same one where it goes through the folder. -/
theorem rotate_both_eq_pair :
    (∃ first middle second last,
      pairRotator.rotate (pairPlan ⟨some "night", none⟩) .home idleApplier (fun _ _ disk => disk) =
          (.ok first, middle) ∧
        middle.rotate (pairPlan ⟨some "night", none⟩) .lock idleApplier (fun _ _ disk => disk) =
          (.ok second, last) ∧
        pairRotator.rotate (pairPlan ⟨some "night", none⟩) .both idleApplier
            (fun _ _ disk => disk) = (.ok (first ++ second), last)) ∧
      (pairRotator.rotate (pairPlan ⟨some "night", none⟩) .both idleApplier
          (fun _ _ disk => disk)).1 =
        .ok [.applied .home (Library.imageRecord "b" "b.png"),
          .applied .lock (Library.imageRecord "a" "a.png")] ∧
      (∃ first middle second last,
        pairRotator.rotate (pairPlan ⟨none, some ⟨"walls"⟩⟩) .home idleApplier
            (fun _ _ disk => disk) = (.ok first, middle) ∧
          middle.rotate (pairPlan ⟨none, some ⟨"walls"⟩⟩) .lock idleApplier
            (fun _ _ disk => disk) = (.ok second, last) ∧
          pairRotator.rotate (pairPlan ⟨none, some ⟨"walls"⟩⟩) .both idleApplier
            (fun _ _ disk => disk) = (.ok (first ++ second), last)) ∧
      (pairRotator.rotate (pairPlan ⟨none, some ⟨"walls"⟩⟩) .both idleApplier
          (fun _ _ disk => disk)).1 =
        .ok [.applied .home (Library.imageRecord "b" "b.png"),
          .applied .lock (Library.imageRecord "b" "b.png")] := by
  refine ⟨?_, by decide +kernel, ?_, by decide +kernel⟩
  · exact rotate_both_eq library_pairRotator (fun _ _ _ => rfl)
      (fun _ _ _ disk => Disk.Spares.refl disk) fun hshares => absurd hshares (by decide +kernel)
  · exact rotate_both_eq library_pairRotator (fun _ _ _ => rfl)
      (fun _ _ _ disk => Disk.Spares.refl disk) fun _ => ⟨by decide +kernel, rfl⟩

end Rotator

end WallpaperRotation
