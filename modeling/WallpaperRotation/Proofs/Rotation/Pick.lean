/-
# What a pick goes by and what it changes

A pick goes by the library, the random words, the positions and the ledgers.  It changes the
position or the ledger that it was made from, and the words; what was picked can be told from there
until the next pick.
-/
import WallpaperRotation.Rotation.Rotator

namespace WallpaperRotation

/-! ## Choices -/

section Choices

variable {candidates : List Wallpaper} {w : Wallpaper}

/-- The last showing in a ledger is that of a wallpaper. -/
def Ledger.EndsWith (ledger : Ledger) (w : Wallpaper) (now : Timestamp) : Prop :=
  ledger.entries.getLast? = some ⟨w.id, w.path, now⟩

/-- A showing is the last one of its ledger. -/
theorem Ledger.endsWith_record (ledger : Ledger) (w : Wallpaper) (now : Timestamp) :
    (ledger.record w now).EndsWith w now := by
  simp [EndsWith, record]

/-- What is chosen at random is the last showing of the ledger. -/
theorem endsWith_selectRandom {chance : Chance} {now : Timestamp}
    (h : (selectRandom candidates chance now).1 = some w) :
    (selectRandom candidates chance now).2.ledger.EndsWith w now := by
  unfold selectRandom at h ⊢
  split at h
  · cases h
  · rename_i hsome
    rw [if_neg hsome]
    dsimp only at h ⊢
    split at h
    · cases h
      exact Ledger.endsWith_record _ w now
    · cases h

/-- What is chosen in order is the candidate at the cursor. -/
theorem getElem?_selectSequential {cursor : UInt64}
    (h : (selectSequential candidates cursor).1 = some w) :
    candidates[(selectSequential candidates cursor).2.toNat]? = some w := by
  unfold selectSequential at h ⊢
  cases hnext : candidates[(cursorAfter cursor).toNat]? with
  | some next =>
    rw [hnext] at h
    cases h
    exact hnext
  | none =>
    rw [hnext] at h
    exact List.head?_eq_getElem?.symm.trans h

/-- A choice for a target leaves what the target shows. -/
theorem TargetState.current_select (state : TargetState) (candidates : List Wallpaper)
    (mode : Mode) (words : Words) (now : Timestamp) :
    (state.select candidates mode words now).2.1.current = state.current := by
  cases mode <;> rfl

/-- A choice for a target goes by its position and its ledger. -/
theorem TargetState.select_congr {state other : TargetState} (hcursor : state.cursor = other.cursor)
    (hledger : state.ledger = other.ledger) (candidates : List Wallpaper) (mode : Mode)
    (words : Words) (now : Timestamp) :
    (state.select candidates mode words now).1 = (other.select candidates mode words now).1 ∧
      (state.select candidates mode words now).2.1.cursor =
        (other.select candidates mode words now).2.1.cursor ∧
      (state.select candidates mode words now).2.1.ledger =
        (other.select candidates mode words now).2.1.ledger ∧
      (state.select candidates mode words now).2.2 =
        (other.select candidates mode words now).2.2 := by
  unfold select
  rw [hcursor, hledger]
  cases mode <;> exact ⟨rfl, rfl, rfl, rfl⟩

end Choices

namespace Rotator

variable {rotator other : Rotator} {plan : Plan} {target : Target} {w : Wallpaper}

/-! ## Getting ready -/

/-- The rotator that a rotation picks with: one whose records were checked, where that is
configured. -/
def ready (rotator : Rotator) (plan : Plan) : Rotator :=
  if plan.config.library.validateBeforeRotate then (rotator.validate plan).2 else rotator

/-- Checking the records leaves all but the library. -/
theorem ready_eq (rotator : Rotator) (plan : Plan) :
    rotator.ready plan = { rotator with library := (rotator.ready plan).library } := by
  unfold ready
  split <;> rfl

/-- A rotation gets ready and picks, once for both targets or for each target. -/
theorem rotate_eq (rotator : Rotator) (plan : Plan) (selection : Selection) (applier : Applier)
    (notifier : Notifier) :
    rotator.rotate plan selection applier notifier =
      if plan.sharesPick selection then (rotator.ready plan).rotateTogether plan applier notifier
      else (rotator.ready plan).rotateEach plan selection.targets applier notifier :=
  rfl

/-- The rotator with the lock screen at the position of the home screen. -/
def align (rotator : Rotator) : Rotator :=
  { rotator with
    state := rotator.state.updateTarget .lock fun state =>
      { state with cursor := rotator.state.home.cursor } }

/-- A pick that both targets share is shown when they were aligned. -/
theorem rotateTogether_eq (rotator : Rotator) (plan : Plan) (applier : Applier)
    (notifier : Notifier) :
    rotator.rotateTogether plan applier notifier =
      forTargets (fun aligned target =>
        aligned.presentPick applier notifier target (rotator.pick plan .home).1) Target.all
        (rotator.pick plan .home).2.align :=
  rfl

/-! ## Where a pick is made from -/

/-- The candidates of a target that is restricted; `none` when the target gets any wallpaper of the
library, as it has no scope or one that cannot be had. -/
def restriction (rotator : Rotator) (plan : Plan) (target : Target) : Option (List Wallpaper) :=
  if plan.scope target = .all then none
  else ((plan.scope target).candidates rotator.library plan.folders).toOption

/-- The candidates of a target go by the library. -/
theorem restriction_congr (h : rotator.library = other.library) (plan : Plan) (target : Target) :
    rotator.restriction plan target = other.restriction plan target := by
  unfold restriction
  rw [h]

/-- A pick is made from the candidates of the target or from the library. -/
theorem pick_eq (rotator : Rotator) (plan : Plan) (target : Target) :
    rotator.pick plan target =
      match rotator.restriction plan target with
      | some candidates => rotator.pickAmong plan target candidates
      | none => rotator.pickFromLibrary plan := by
  unfold pick restriction
  by_cases hall : plan.scope target = .all
  · rw [if_pos hall, if_pos hall]
  · rw [if_neg hall, if_neg hall]
    cases (plan.scope target).candidates rotator.library plan.folders <;> rfl

/-- What was picked for a target can be told from where it was picked: the position of the target
is that of the wallpaper, or the wallpaper is the last showing of the target's ledger or, when the
target gets any wallpaper, of the library's. -/
def Remembers (rotator : Rotator) (plan : Plan) (target : Target) (w : Wallpaper) : Prop :=
  match rotator.restriction plan target, plan.config.rotation.mode with
  | some candidates, .sequential =>
    candidates[(rotator.state.target target).cursor.toNat]? = some w
  | some _, .random => (rotator.state.target target).ledger.EndsWith w plan.now
  | none, _ => rotator.state.library.EndsWith w plan.now

/-! ## What a pick changes -/

/-- A pick leaves the library. -/
@[simp] theorem library_pick (rotator : Rotator) (plan : Plan) (target : Target) :
    (rotator.pick plan target).2.library = rotator.library := by
  rw [pick_eq]
  split <;> rfl

/-- A pick leaves the disk. -/
@[simp] theorem disk_pick (rotator : Rotator) (plan : Plan) (target : Target) :
    (rotator.pick plan target).2.disk = rotator.disk := by
  rw [pick_eq]
  split <;> rfl

/-- A pick is no event. -/
@[simp] theorem events_pick (rotator : Rotator) (plan : Plan) (target : Target) :
    (rotator.pick plan target).2.events = rotator.events := by
  rw [pick_eq]
  split <;> rfl

/-- A pick for one target leaves the other one. -/
theorem target_pick_of_ne {apart : Target} (h : apart ≠ target) (rotator : Rotator) (plan : Plan) :
    (rotator.pick plan target).2.state.target apart = rotator.state.target apart := by
  rw [pick_eq]
  split
  · exact RotationState.target_setTarget_of_ne _ _ h
  · cases apart <;> rfl

/-- A pick leaves what the targets show. -/
theorem current_pick (rotator : Rotator) (plan : Plan) (target apart : Target) :
    ((rotator.pick plan target).2.state.target apart).current =
      (rotator.state.target apart).current := by
  by_cases h : apart = target
  · subst h
    rw [pick_eq]
    split
    · exact (congrArg TargetState.current (RotationState.target_setTarget_self _ _ _)).trans
        (TargetState.current_select _ _ _ _ _)
    · cases apart <;> rfl
  · rw [target_pick_of_ne h]

/-- Showing what was picked leaves the library, also when that fails. -/
theorem library_presentPick (rotator : Rotator) (applier : Applier) (notifier : Notifier)
    (target : Target) (pick : Option Wallpaper) :
    (rotator.presentPick applier notifier target pick).2.library = rotator.library := by
  cases pick with
  | none => rfl
  | some w =>
    unfold presentPick present
    dsimp only
    split <;> rfl

/-- What was picked can be told from where it was picked. -/
theorem remembers_pick (h : (rotator.pick plan target).1 = some w) :
    (rotator.pick plan target).2.Remembers plan target w := by
  have hsame : (rotator.pick plan target).2.restriction plan target =
      rotator.restriction plan target := restriction_congr (library_pick _ _ _) plan target
  unfold Remembers
  rw [hsame]
  rw [pick_eq] at h ⊢
  cases hrestriction : rotator.restriction plan target with
  | none =>
    rw [hrestriction] at h
    exact endsWith_selectRandom h
  | some candidates =>
    rw [hrestriction] at h
    simp only [pickAmong, RotationState.target_setTarget_self, TargetState.select] at h ⊢
    cases hmode : plan.config.rotation.mode with
    | sequential =>
      rw [hmode] at h
      exact getElem?_selectSequential h
    | random =>
      rw [hmode] at h
      exact endsWith_selectRandom h

/-! ## Rotators that pick alike -/

/-- What picks go by is the same for two rotators. -/
structure PicksLike (rotator other : Rotator) : Prop where
  library : rotator.library = other.library
  words : rotator.words = other.words
  shared : rotator.state.library = other.state.library
  cursor : ∀ target, (rotator.state.target target).cursor = (other.state.target target).cursor
  ledger : ∀ target, (rotator.state.target target).ledger = (other.state.target target).ledger

/-- A rotator picks like itself. -/
theorem PicksLike.refl (rotator : Rotator) : rotator.PicksLike rotator :=
  ⟨rfl, rfl, rfl, fun _ => rfl, fun _ => rfl⟩

/-- Two rotators that pick like a third one in turn pick alike. -/
theorem PicksLike.trans {third : Rotator} (h : rotator.PicksLike other)
    (hthird : other.PicksLike third) : rotator.PicksLike third where
  library := h.library.trans hthird.library
  words := h.words.trans hthird.words
  shared := h.shared.trans hthird.shared
  cursor target := (h.cursor target).trans (hthird.cursor target)
  ledger target := (h.ledger target).trans (hthird.ledger target)

/-- Rotators that pick alike have the same candidates. -/
theorem PicksLike.restriction_eq (h : rotator.PicksLike other) (plan : Plan) (target : Target) :
    rotator.restriction plan target = other.restriction plan target :=
  restriction_congr h.library plan target

/-- What was picked can be told from either of two rotators that pick alike. -/
theorem PicksLike.remembers (h : rotator.PicksLike other) (hother : other.Remembers plan target w) :
    rotator.Remembers plan target w := by
  unfold Remembers at hother ⊢
  rw [h.restriction_eq, h.cursor, h.ledger, h.shared]
  exact hother

/-- Rotators that pick alike pick the same, and go on picking alike. -/
theorem PicksLike.pick (h : rotator.PicksLike other) (plan : Plan) (target : Target) :
    (rotator.pick plan target).1 = (other.pick plan target).1 ∧
      (rotator.pick plan target).2.PicksLike (other.pick plan target).2 := by
  rw [pick_eq, pick_eq, h.restriction_eq]
  cases other.restriction plan target with
  | none =>
    unfold pickFromLibrary
    rw [h.library, h.words, h.shared]
    exact ⟨rfl, rfl, rfl, rfl,
      Target.rec (h.cursor .home) (h.cursor .lock), Target.rec (h.ledger .home) (h.ledger .lock)⟩
  | some candidates =>
    obtain ⟨hpick, hcursor, hledger, hwords⟩ := TargetState.select_congr (h.cursor target)
      (h.ledger target) candidates plan.config.rotation.mode rotator.words plan.now
    simp only [pickAmong, ← h.words]
    refine ⟨hpick, h.library, hwords, ?_, fun apart => ?_, fun apart => ?_⟩
    · simp only [RotationState.library_setTarget, h.shared]
    all_goals
      by_cases hsame : apart = target
      · subst hsame
        simp only [RotationState.target_setTarget_self, hcursor, hledger]
      · simp only [RotationState.target_setTarget_of_ne _ _ hsame, h.cursor, h.ledger]

end Rotator

end WallpaperRotation
