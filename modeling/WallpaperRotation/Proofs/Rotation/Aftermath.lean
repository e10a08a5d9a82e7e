/-
# What a rotation leaves behind

A rotation that ends well has one outcome for each of its targets; a wallpaper was put on a target,
and people were told of it, exactly where there was something to pick.  A rotation that fails at one
target has served those before it in the same way, keeps what was picked for the target where it
was picked from, and has not touched the targets behind it unless they share the pick.
-/
import WallpaperRotation.Proofs.Rotation.Pick
import WallpaperRotation.Proofs.Rotation.Reachable

namespace WallpaperRotation

/-! ## Outcomes and events -/

namespace Outcome

/-- The outcome of a pick for a target, when what was picked could be shown. -/
def ofPick : Target × Option Wallpaper → Outcome
  | (target, some w) => .applied target w
  | (target, none) => .skipped target

/-- The target of an outcome. -/
def target : Outcome → Target
  | .applied target _ => target
  | .skipped target => target

/-- What happens for an outcome: a wallpaper is put on a target and people are told, or nothing. -/
def events : Outcome → List Event
  | .applied target w => [.applied target w, .told target w]
  | .skipped _ => []

/-- What a target shows after an outcome. -/
def shownAfter (target : Target) (current : Option FilePath) : Outcome → Option FilePath
  | .applied other w => if other = target then some w.path else current
  | .skipped _ => current

/-- The outcome of a pick is one for its target. -/
@[simp] theorem target_ofPick (pick : Target × Option Wallpaper) : (ofPick pick).target = pick.1 := by
  rcases pick with ⟨target, _ | w⟩ <;> rfl

/-- The outcomes of picks are ones for their targets. -/
theorem map_target_ofPick (picks : List (Target × Option Wallpaper)) :
    (picks.map ofPick).map target = picks.map Prod.fst := by
  rw [List.map_map]
  exact List.map_congr_left fun pick _ => target_ofPick pick

/-- A target that has no outcome shows what it showed before. -/
theorem foldl_shownAfter_of_not_applied {target : Target} {outcomes : List Outcome}
    (h : ∀ w, Outcome.applied target w ∉ outcomes) (current : Option FilePath) :
    outcomes.foldl (shownAfter target) current = current := by
  induction outcomes generalizing current with
  | nil => rfl
  | cons outcome outcomes ih =>
    have hfirst : shownAfter target current outcome = current := by
      cases outcome with
      | skipped other => rfl
      | applied other w =>
        refine if_neg fun hsame => h w ?_
        rw [hsame]
        exact List.mem_cons_self
    rw [List.foldl_cons, hfirst]
    exact ih (fun w hw => h w (List.mem_cons_of_mem outcome hw)) current

/-- Where each target has one outcome, a target on which a wallpaper was put shows that one. -/
theorem foldl_shownAfter_of_applied {target : Target} {w : Wallpaper} {outcomes : List Outcome}
    (hnodup : (outcomes.map Outcome.target).Nodup) (h : Outcome.applied target w ∈ outcomes)
    (current : Option FilePath) :
    outcomes.foldl (shownAfter target) current = some w.path := by
  induction outcomes generalizing current with
  | nil => cases h
  | cons outcome outcomes ih =>
    rw [List.map_cons, List.nodup_cons] at hnodup
    rw [List.foldl_cons]
    rcases List.mem_cons.1 h with rfl | h
    · have hlast : ∀ v, Outcome.applied target v ∉ outcomes := fun v hv =>
        hnodup.1 (List.mem_map.2 ⟨_, hv, rfl⟩)
      rw [foldl_shownAfter_of_not_applied hlast]
      exact if_pos rfl
    · exact ih hnodup.2 h _

end Outcome

/-- A rotation goes to no target twice. -/
theorem Selection.nodup_targets (selection : Selection) : selection.targets.Nodup := by
  cases selection <;> decide

/-- Some events came about one after the other, as calls on the disk that was left by those before
them. -/
def CameAbout (applier : Applier) (notifier : Notifier) : List Event → Disk → Disk → Prop
  | [], before, after => before = after
  | .applied target w :: events, before, after =>
    ∃ disk, applier.apply target w before = (.ok (), disk) ∧
      CameAbout applier notifier events disk after
  | .refused target w :: events, before, after =>
    ∃ failure disk, applier.apply target w before = (.error failure, disk) ∧
      CameAbout applier notifier events disk after
  | .told target w :: events, before, after =>
    CameAbout applier notifier events (notifier target w before) after
  | .cleared target :: events, before, after =>
    ∃ disk, applier.clear target before = (.ok (), disk) ∧
      CameAbout applier notifier events disk after

/-- Events come about after others. -/
theorem CameAbout.append {applier : Applier} {notifier : Notifier} {events others : List Event}
    {before middle after : Disk} (h : CameAbout applier notifier events before middle)
    (hothers : CameAbout applier notifier others middle after) :
    CameAbout applier notifier (events ++ others) before after := by
  induction events generalizing before with
  | nil =>
    cases h
    exact hothers
  | cons event events ih =>
    cases event with
    | applied target w =>
      obtain ⟨disk, happly, h⟩ := h
      exact ⟨disk, happly, ih h⟩
    | refused target w =>
      obtain ⟨failure, disk, happly, h⟩ := h
      exact ⟨failure, disk, happly, ih h⟩
    | told target w =>
      exact ih (show CameAbout applier notifier events (notifier target w before) middle from h)
    | cleared target =>
      obtain ⟨disk, hclear, h⟩ := h
      exact ⟨disk, hclear, ih h⟩

namespace Rotator

variable {applier : Applier} {notifier : Notifier} {rotator : Rotator}

/-! ## Ways to pick -/

/-- A way to pick for a target. -/
abbrev Picker := Rotator → Target → Option Wallpaper × Rotator

/-- Picks for a target and shows what was picked. -/
def Picker.serve (picker : Picker) (applier : Applier) (notifier : Notifier) (rotator : Rotator)
    (target : Target) : Except Failure Outcome × Rotator :=
  (picker rotator target).2.presentPick applier notifier target (picker rotator target).1

/-- Picking goes by what picks go by, and changes nothing but what they change. -/
structure Picker.IsFair (picker : Picker) : Prop where
  disk : ∀ rotator target, (picker rotator target).2.disk = rotator.disk
  events : ∀ rotator target, (picker rotator target).2.events = rotator.events
  current : ∀ rotator target apart,
    ((picker rotator target).2.state.target apart).current = (rotator.state.target apart).current
  others : ∀ rotator {target apart}, apart ≠ target →
    (picker rotator target).2.state.target apart = rotator.state.target apart
  alike : ∀ {rotator other}, rotator.PicksLike other → ∀ target,
    (picker rotator target).1 = (picker other target).1 ∧
      (picker rotator target).2.PicksLike (picker other target).2

/-- Picking for each target is fair. -/
theorem isFair_pick (plan : Plan) :
    Picker.IsFair fun rotator target => rotator.pick plan target where
  disk rotator target := disk_pick rotator plan target
  events rotator target := events_pick rotator plan target
  current rotator target apart := current_pick rotator plan target apart
  others rotator _ _ h := target_pick_of_ne h rotator plan
  alike h target := h.pick plan target

/-- Going by a pick that was made before is fair. -/
theorem isFair_made (pick : Option Wallpaper) : Picker.IsFair fun rotator _ => (pick, rotator) where
  disk _ _ := rfl
  events _ _ := rfl
  current _ _ _ := rfl
  others _ _ _ _ := rfl
  alike h _ := ⟨rfl, h⟩

/-- What is picked for some targets, one after the other. -/
def pickEach (picker : Picker) : List Target → Rotator → List (Target × Option Wallpaper)
  | [], _ => []
  | target :: targets, rotator =>
    (target, (picker rotator target).1) :: pickEach picker targets (picker rotator target).2

/-- Each target is picked for. -/
theorem map_fst_pickEach (picker : Picker) (targets : List Target) (rotator : Rotator) :
    (pickEach picker targets rotator).map Prod.fst = targets := by
  induction targets generalizing rotator with
  | nil => rfl
  | cons target targets ih => rw [pickEach, List.map_cons, ih]

/-- A pick that was made before is the one for each target. -/
theorem pickEach_made (pick : Option Wallpaper) (targets : List Target) (rotator : Rotator) :
    pickEach (fun rotator _ => (pick, rotator)) targets rotator =
      targets.map fun target => (target, pick) := by
  induction targets with
  | nil => rfl
  | cons target targets ih => rw [pickEach, ih, List.map_cons]

/-- Rotators that pick alike pick the same for each target. -/
theorem Picker.IsFair.pickEach_eq {picker : Picker} (hfair : picker.IsFair) {other : Rotator}
    (h : rotator.PicksLike other) (targets : List Target) :
    pickEach picker targets rotator = pickEach picker targets other := by
  induction targets generalizing rotator other with
  | nil => rfl
  | cons target targets ih =>
    obtain ⟨hpick, hnext⟩ := hfair.alike h target
    rw [pickEach, pickEach, hpick, ih hnext]

/-! ## Serving targets -/

/-- Some outcomes were reached between two rotators: what was put on targets, and what people were
told, are the events in between, and each target shows what its outcome says. -/
structure Shows (applier : Applier) (notifier : Notifier) (before : Rotator)
    (outcomes : List Outcome) (after : Rotator) : Prop where
  events : after.events = before.events ++ outcomes.flatMap Outcome.events
  calls : CameAbout applier notifier (outcomes.flatMap Outcome.events) before.disk after.disk
  current : ∀ target, (after.state.target target).current =
    outcomes.foldl (Outcome.shownAfter target) (before.state.target target).current

/-- Some outcomes were reached between two rotators, and each target that has none was not
touched. -/
structure Serves (applier : Applier) (notifier : Notifier) (before : Rotator)
    (outcomes : List Outcome) (after : Rotator) : Prop
    extends Shows applier notifier before outcomes after where
  others : ∀ target, target ∉ outcomes.map Outcome.target →
    after.state.target target = before.state.target target

/-- Without outcomes nothing is changed. -/
theorem Serves.refl (rotator : Rotator) : Serves applier notifier rotator [] rotator where
  events := (List.append_nil _).symm
  calls := rfl
  current _ := rfl
  others _ _ := rfl

/-- Outcomes are reached after others. -/
theorem Serves.append {before middle after : Rotator} {outcomes others : List Outcome}
    (h : Serves applier notifier before outcomes middle)
    (hothers : Serves applier notifier middle others after) :
    Serves applier notifier before (outcomes ++ others) after where
  events := by rw [hothers.events, h.events, List.flatMap_append, List.append_assoc]
  calls := by
    rw [List.flatMap_append]
    exact h.calls.append hothers.calls
  current target := by rw [hothers.current, h.current, List.foldl_append]
  others target htarget := by
    rw [List.map_append, List.mem_append, not_or] at htarget
    rw [hothers.others target htarget.2, h.others target htarget.1]

/-- Putting a wallpaper on a target, and telling people, is the outcome of its pick. -/
theorem serves_shown (notifier : Notifier) {target : Target} {w : Wallpaper} {disk : Disk}
    (happly : applier.apply target w rotator.disk = (.ok (), disk)) :
    Serves applier notifier rotator [.applied target w]
      ((({ rotator with
          disk := notifier target w disk
          state := rotator.state.updateTarget target fun state =>
            { state with current := some w.path } }).log (.applied target w)).log
        (.told target w)) where
  events := List.append_assoc _ _ _
  calls := ⟨disk, happly, rfl⟩
  current apart := by
    by_cases h : target = apart
    · subst h
      simp [log, RotationState.updateTarget, Outcome.shownAfter]
    · simp [log, RotationState.updateTarget, Outcome.shownAfter, h,
        RotationState.target_setTarget_of_ne _ _ (Ne.symm h)]
  others apart h := RotationState.target_setTarget_of_ne _ _ (by simpa [Outcome.target] using h)

/-- Rotators that differ in the disk, the events and what targets show pick alike. -/
theorem picksLike_shown (rotator : Rotator) (target : Target) (w : Wallpaper) (disk : Disk)
    (events : List Event) :
    ({ rotator with
        disk := disk
        events := events
        state := rotator.state.updateTarget target fun state =>
          { state with current := some w.path } } : Rotator).PicksLike rotator where
  library := rfl
  words := rfl
  shared := RotationState.library_setTarget _ _ _
  cursor apart := by cases target <;> cases apart <;> rfl
  ledger apart := by cases target <;> cases apart <;> rfl

/-- What was picked for a target is shown, and later picks are as if it had not been, or the applier
fails. -/
theorem presentPick_cases (rotator : Rotator) (applier : Applier) (notifier : Notifier)
    (target : Target) (pick : Option Wallpaper) :
    (∃ after, rotator.presentPick applier notifier target pick =
        (.ok (Outcome.ofPick (target, pick)), after) ∧
      Serves applier notifier rotator [Outcome.ofPick (target, pick)] after ∧
      after.PicksLike rotator) ∨
    ∃ w failure disk, pick = some w ∧
      applier.apply target w rotator.disk = (.error failure, disk) ∧
      rotator.presentPick applier notifier target pick =
        (.error failure, { rotator with disk := disk }.log (.refused target w)) := by
  cases pick with
  | none =>
    exact Or.inl ⟨rotator, rfl, ⟨⟨(List.append_nil _).symm, rfl, fun _ => rfl⟩, fun _ _ => rfl⟩,
      PicksLike.refl rotator⟩
  | some w =>
    rcases happly : applier.apply target w rotator.disk with ⟨failure | _, disk⟩
    · refine Or.inr ⟨w, failure, disk, rfl, happly, ?_⟩
      simp only [presentPick, present, happly]
    · refine Or.inl ⟨_, ?_, serves_shown notifier happly, picksLike_shown rotator target w _ _⟩
      simp only [presentPick, present, happly]
      rfl

/-- A step that comes to an outcome is followed by those for the other targets. -/
theorem forTargets_cons_of_ok {step : Rotator → Target → Except Failure Outcome × Rotator}
    {target : Target} {outcome : Outcome} {next : Rotator}
    (h : step rotator target = (.ok outcome, next)) (targets : List Target) :
    forTargets step (target :: targets) rotator =
      ((forTargets step targets next).1.map (outcome :: ·), (forTargets step targets next).2) := by
  simp only [forTargets, h]
  rcases forTargets step targets next with ⟨failure | outcomes, after⟩ <;> rfl

/-- A step that fails is the last one. -/
theorem forTargets_cons_of_error {step : Rotator → Target → Except Failure Outcome × Rotator}
    {target : Target} {failure : Failure} {next : Rotator}
    (h : step rotator target = (.error failure, next)) (targets : List Target) :
    forTargets step (target :: targets) rotator = (.error failure, next) := by
  rw [forTargets, h]

/-- A target is served when what was picked for it is shown. -/
theorem Picker.IsFair.serves {picker : Picker} (hfair : picker.IsFair) {target : Target}
    {after : Rotator} {outcome : Outcome} (htarget : outcome.target = target)
    (h : Serves applier notifier (picker rotator target).2 [outcome] after) :
    Serves applier notifier rotator [outcome] after where
  events := by rw [h.events, hfair.events]
  calls := by
    have hcalls := h.calls
    rwa [hfair.disk] at hcalls
  current apart := by rw [h.current, hfair.current]
  others apart hapart := by
    rw [h.others apart hapart]
    refine hfair.others rotator fun hsame => hapart ?_
    rw [hsame, ← htarget]
    exact List.mem_singleton.2 rfl

/-- A rotator stopped at a target: those before it were served, then a wallpaper was picked for it,
and the applier failed with that one. -/
def StopsAt (applier : Applier) (notifier : Notifier) (picker : Picker) (before : Rotator)
    (earlier : List Outcome) (target : Target) (w : Wallpaper) (failure : Failure)
    (after : Rotator) : Prop :=
  ∃ middle, Serves applier notifier before earlier middle ∧
    (picker middle target).1 = some w ∧
    applier.apply target w middle.disk = (.error failure, after.disk) ∧
    after = { (picker middle target).2 with disk := after.disk }.log (.refused target w)

/-- Going from target to target serves each of them with what is picked for it, up to one at which
the applier fails. -/
theorem Picker.IsFair.forTargets_cases {picker : Picker} (hfair : picker.IsFair)
    (applier : Applier) (notifier : Notifier) (targets : List Target) (rotator : Rotator) :
    match forTargets (picker.serve applier notifier) targets rotator with
    | (.ok outcomes, after) =>
      outcomes = (pickEach picker targets rotator).map Outcome.ofPick ∧
        Serves applier notifier rotator outcomes after
    | (.error failure, after) =>
      ∃ earlier target w later,
        pickEach picker targets rotator = earlier ++ (target, some w) :: later ∧
        StopsAt applier notifier picker rotator (earlier.map Outcome.ofPick) target w failure
          after := by
  induction targets generalizing rotator with
  | nil => exact ⟨rfl, Serves.refl rotator⟩
  | cons target targets ih =>
    rcases presentPick_cases (picker rotator target).2 applier notifier target
      (picker rotator target).1 with
      ⟨next, hpresent, hserves, halike⟩ | ⟨w, failure, disk, hpick, happly, hpresent⟩
    · have hfirst := hfair.serves (Outcome.target_ofPick (target, (picker rotator target).1)) hserves
      have hothers := ih next
      rw [hfair.pickEach_eq halike] at hothers
      rw [forTargets_cons_of_ok (show picker.serve applier notifier rotator target = _ from hpresent),
        pickEach]
      generalize forTargets _ targets next = rest at hothers ⊢
      rcases rest with ⟨failure | outcomes, after⟩
      · obtain ⟨earlier, stopped, w, later, hpicks, middle, hmiddle, hstops⟩ := hothers
        exact ⟨(target, (picker rotator target).1) :: earlier, stopped, w, later,
          by rw [hpicks, List.cons_append], middle, hfirst.append hmiddle, hstops⟩
      · obtain ⟨houtcomes, hrest⟩ := hothers
        exact ⟨by rw [houtcomes, List.map_cons], hfirst.append hrest⟩
    · rw [forTargets_cons_of_error
        (show picker.serve applier notifier rotator target = _ from hpresent), pickEach, hpick]
      rw [hfair.disk] at happly
      exact ⟨[], target, w, _, rfl, rotator, Serves.refl rotator, hpick, happly, rfl⟩

/-- Where each target has one outcome, the targets on which wallpapers were put show these, and the
others what they showed before. -/
theorem Shows.shown {before after : Rotator} {outcomes : List Outcome}
    (h : Shows applier notifier before outcomes after)
    (hnodup : (outcomes.map Outcome.target).Nodup) :
    (∀ target w, Outcome.applied target w ∈ outcomes →
      (after.state.target target).current = some w.path) ∧
    ∀ target, (∀ w, Outcome.applied target w ∉ outcomes) →
      (after.state.target target).current = (before.state.target target).current := by
  refine ⟨fun target w hw => ?_, fun target hnone => ?_⟩
  · rw [h.current, Outcome.foldl_shownAfter_of_applied hnodup hw]
  · rw [h.current, Outcome.foldl_shownAfter_of_not_applied hnone]

/-- Showing what was picked, or failing to, leaves what picks go by. -/
theorem PicksLike.presentPick {other : Rotator} (h : rotator.PicksLike other) (target : Target)
    (pick : Option Wallpaper) :
    (rotator.presentPick applier notifier target pick).2.PicksLike other := by
  rcases presentPick_cases rotator applier notifier target pick with
    ⟨after, hpresent, -, halike⟩ | ⟨w, failure, disk, -, -, hpresent⟩
  · rw [hpresent]
    exact halike.trans h
  · rw [hpresent]
    exact ⟨h.library, h.words, h.shared, h.cursor, h.ledger⟩

/-! ## Rotating -/

/-- What is picked for each target of a selection, unless the rotation fails before. -/
def picks (rotator : Rotator) (plan : Plan) (selection : Selection) :
    List (Target × Option Wallpaper) :=
  if plan.sharesPick selection then
    selection.targets.map fun target => (target, ((rotator.ready plan).pick plan .home).1)
  else pickEach (fun rotator target => rotator.pick plan target) selection.targets
    (rotator.ready plan)

/-- Something was picked, or not, for each target of a selection. -/
theorem map_fst_picks (rotator : Rotator) (plan : Plan) (selection : Selection) :
    (rotator.picks plan selection).map Prod.fst = selection.targets := by
  unfold picks
  split
  · rw [List.map_map]
    exact List.map_id _
  · exact map_fst_pickEach _ _ _

/-- A rotation that ended well.  It has one outcome for each target of the selection, in their
order: that of what was picked for it.  The wallpapers that were put on targets, and those that
people were told of, are those of the outcomes.  A target on which a wallpaper was put shows it, and
any other target shows what it showed before. -/
structure Completes (rotator : Rotator) (plan : Plan) (selection : Selection) (applier : Applier)
    (notifier : Notifier) (outcomes : List Outcome) (after : Rotator) : Prop where
  outcomes_eq : outcomes = (rotator.picks plan selection).map Outcome.ofPick
  targets_eq : outcomes.map Outcome.target = selection.targets
  events_eq : after.events = rotator.events ++ outcomes.flatMap Outcome.events
  calls : CameAbout applier notifier (outcomes.flatMap Outcome.events) rotator.disk after.disk
  shown : ∀ target w, Outcome.applied target w ∈ outcomes →
    (after.state.target target).current = some w.path
  kept : ∀ target, (∀ w, Outcome.applied target w ∉ outcomes) →
    (after.state.target target).current = (rotator.state.target target).current

/-- A rotation that failed when a wallpaper was to be put on a target.  The targets before it, in
the order of the selection, were served as in a rotation that ends well, and nothing else was shown
or told.  The wallpaper can still be told from where it was picked.  Unless the targets share the
pick, those behind the target were not touched. -/
structure Fails (rotator : Rotator) (plan : Plan) (selection : Selection) (applier : Applier)
    (notifier : Notifier) (failure : Failure) (after : Rotator)
    (earlier : List (Target × Option Wallpaper)) (target : Target) (w : Wallpaper)
    (later : List (Target × Option Wallpaper)) : Prop where
  picks_eq : rotator.picks plan selection = earlier ++ (target, some w) :: later
  targets_eq : earlier.map Prod.fst ++ target :: later.map Prod.fst = selection.targets
  events_eq : after.events = rotator.events ++
    (earlier.map Outcome.ofPick).flatMap Outcome.events ++ [.refused target w]
  calls : ∃ disk,
    CameAbout applier notifier ((earlier.map Outcome.ofPick).flatMap Outcome.events) rotator.disk
      disk ∧
    applier.apply target w disk = (.error failure, after.disk)
  shown : ∀ other v, Outcome.applied other v ∈ earlier.map Outcome.ofPick →
    (after.state.target other).current = some v.path
  kept : ∀ other, (∀ v, Outcome.applied other v ∉ earlier.map Outcome.ofPick) →
    (after.state.target other).current = (rotator.state.target other).current
  remembered : after.Remembers plan (if plan.sharesPick selection then .home else target) w
  untouched : plan.sharesPick selection = false → ∀ other ∈ later.map Prod.fst,
    after.state.target other = rotator.state.target other

/-- What a rotation comes to: it ends well or fails at a target. -/
def Leaves (rotator : Rotator) (plan : Plan) (selection : Selection) (applier : Applier)
    (notifier : Notifier) : Except Failure (List Outcome) × Rotator → Prop
  | (.ok outcomes, after) => rotator.Completes plan selection applier notifier outcomes after
  | (.error failure, after) =>
    ∃ earlier target w later,
      rotator.Fails plan selection applier notifier failure after earlier target w later

/-- Two rotators have had the same events, on the same disk, and their targets show the same. -/
structure ShowsLike (rotator other : Rotator) : Prop where
  events : rotator.events = other.events
  disk : rotator.disk = other.disk
  current : ∀ target, (rotator.state.target target).current = (other.state.target target).current

/-- Having come equally far is transitive. -/
theorem ShowsLike.trans {other third : Rotator} (h : rotator.ShowsLike other)
    (hthird : other.ShowsLike third) : rotator.ShowsLike third where
  events := h.events.trans hthird.events
  disk := h.disk.trans hthird.disk
  current target := (h.current target).trans (hthird.current target)

/-- Outcomes are reached from any rotator that has come equally far. -/
theorem Shows.of_showsLike {before after : Rotator} {outcomes : List Outcome}
    (h : Shows applier notifier before outcomes after) (hlike : before.ShowsLike rotator) :
    Shows applier notifier rotator outcomes after where
  events := by rw [h.events, hlike.events]
  calls := by
    have hcalls := h.calls
    rwa [hlike.disk] at hcalls
  current target := by rw [h.current, hlike.current]

section Rotate

variable {plan : Plan} {selection : Selection} {picker : Picker} {before after : Rotator}

/-- A rotation that serves all its targets ends well. -/
theorem Shows.completes {outcomes : List Outcome}
    (h : Shows applier notifier rotator outcomes after)
    (houtcomes : outcomes = (rotator.picks plan selection).map Outcome.ofPick) :
    rotator.Completes plan selection applier notifier outcomes after := by
  have heach : outcomes.map Outcome.target = selection.targets := by
    rw [houtcomes, Outcome.map_target_ofPick, map_fst_picks]
  obtain ⟨hshown, hkept⟩ := h.shown (heach ▸ selection.nodup_targets)
  exact ⟨houtcomes, heach, h.events, h.calls, hshown, hkept⟩

/-- A rotation that stops at a target fails. -/
theorem StopsAt.fails (hfair : picker.IsFair) (hlike : before.ShowsLike rotator)
    {earlier later : List (Target × Option Wallpaper)} {target : Target} {w : Wallpaper}
    {failure : Failure}
    (h : StopsAt applier notifier picker before (earlier.map Outcome.ofPick) target w failure after)
    (hpicks : rotator.picks plan selection = earlier ++ (target, some w) :: later)
    (hremembered : after.Remembers plan (if plan.sharesPick selection then .home else target) w)
    (hstate : plan.sharesPick selection = false → before.state = rotator.state) :
    rotator.Fails plan selection applier notifier failure after earlier target w later := by
  obtain ⟨middle, hserves, hpick, happly, hafter⟩ := h
  have heach : earlier.map Prod.fst ++ target :: later.map Prod.fst = selection.targets := by
    rw [← map_fst_picks rotator plan selection, hpicks, List.map_append, List.map_cons]
  have hnodup := selection.nodup_targets
  rw [← heach, List.nodup_append, List.nodup_cons] at hnodup
  obtain ⟨hearlier, ⟨hlater, -⟩, hbehind⟩ := hnodup
  have hshows := hserves.toShows.of_showsLike hlike
  obtain ⟨hshown, hkept⟩ := hshows.shown (by rwa [Outcome.map_target_ofPick])
  -- The pick that could not be shown changed no more than its target's position or ledger.
  have hcurrent (other : Target) :
      (after.state.target other).current = (middle.state.target other).current := by
    rw [hafter]
    exact hfair.current middle target other
  refine ⟨hpicks, heach, ?_, ⟨middle.disk, hshows.calls, happly⟩, fun other v hv => ?_,
    fun other hnone => ?_, hremembered, fun hshares other hother => ?_⟩
  · rw [hafter, ← hshows.events, ← hfair.events middle target]
    rfl
  · rw [hcurrent, hshown other v hv]
  · rw [hcurrent, hkept other hnone]
  · have hapart : other ≠ target := fun hsame => hlater (hsame ▸ hother)
    have hbefore : other ∉ (earlier.map Outcome.ofPick).map Outcome.target := by
      rw [Outcome.map_target_ofPick]
      exact fun h => hbehind other h other (List.mem_cons_of_mem _ hother) rfl
    rw [hafter]
    refine (hfair.others middle hapart).trans ?_
    rw [hserves.others other hbefore, hstate hshares]

/-- Serving the targets of a selection ends well or fails at one, when what is picked for them is
what the rotation picks, and can be told where it stops. -/
theorem Picker.IsFair.leaves (hfair : picker.IsFair) (hlike : before.ShowsLike rotator)
    (hpicks : pickEach picker selection.targets before = rotator.picks plan selection)
    (hstate : plan.sharesPick selection = false → before.state = rotator.state)
    (hremembered : ∀ {earlier target w failure after},
      (forTargets (picker.serve applier notifier) selection.targets before).2 = after →
      StopsAt applier notifier picker before earlier target w failure after →
      after.Remembers plan (if plan.sharesPick selection then .home else target) w) :
    rotator.Leaves plan selection applier notifier
      (forTargets (picker.serve applier notifier) selection.targets before) := by
  have hcases := hfair.forTargets_cases applier notifier selection.targets before
  rcases hresult : forTargets (picker.serve applier notifier) selection.targets before with
    ⟨failure | outcomes, after⟩
  · rw [hresult, hpicks] at hcases
    obtain ⟨earlier, target, w, later, hsplit, hstops⟩ := hcases
    exact ⟨earlier, target, w, later, hstops.fails hfair hlike hsplit
      (hremembered (congrArg Prod.snd hresult) hstops) hstate⟩
  · rw [hresult, hpicks] at hcases
    exact (hcases.2.toShows.of_showsLike hlike).completes hcases.1

/-- Checking the records leaves the events, the disk and what the targets show. -/
theorem showsLike_ready (rotator : Rotator) (plan : Plan) :
    (rotator.ready plan).ShowsLike rotator := by
  rw [ready_eq]
  exact ⟨rfl, rfl, fun _ => rfl⟩

/-- Checking the records leaves a consistent library. -/
theorem consistent_ready (h : rotator.library.Consistent) (plan : Plan) :
    (rotator.ready plan).library.Consistent := by
  unfold ready
  split
  · exact (h.apply .sanitize).apply (.purge rotator.disk plan.folders)
  · exact h

/-- A pick, and aligning the targets, leaves the events, the disk and what the targets show. -/
theorem showsLike_align_pick (rotator : Rotator) (plan : Plan) :
    (rotator.pick plan .home).2.align.ShowsLike rotator where
  events := events_pick rotator plan .home
  disk := disk_pick rotator plan .home
  current target := by
    rw [← current_pick rotator plan .home target]
    cases target <;> rfl

/-- What was picked for the home screen can be told from there when the targets were aligned. -/
theorem remembers_align {w : Wallpaper} (h : rotator.Remembers plan .home w) :
    rotator.align.Remembers plan .home w :=
  h

/-- A rotation whose targets share a pick shows it on each of them, or fails at one. -/
theorem rotateTogether_leaves (hshares : plan.sharesPick selection = true) (rotator : Rotator)
    (applier : Applier) (notifier : Notifier) :
    rotator.Leaves plan selection applier notifier
      ((rotator.ready plan).rotateTogether plan applier notifier) := by
  have hboth : Target.all = selection.targets := by
    simp only [Plan.sharesPick, Bool.and_eq_true, decide_eq_true_eq] at hshares
    rw [hshares.1.1]
    rfl
  rw [rotateTogether_eq, hboth]
  generalize hpick : ((rotator.ready plan).pick plan .home).1 = pick
  generalize haligned : ((rotator.ready plan).pick plan .home).2.align = aligned
  refine (isFair_made pick).leaves ?_ ?_ (fun h => absurd (hshares.symm.trans h) (by simp)) ?_
  · rw [← haligned]
    exact (showsLike_align_pick _ plan).trans (showsLike_ready rotator plan)
  · rw [pickEach_made, picks, if_pos hshares, ← hpick]
  · -- Showing the pick does not change from where it can be told.
    rintro earlier target w failure after rfl ⟨middle, -, hsome, -⟩
    have halike : (forTargets (Picker.serve (fun rotator _ => (pick, rotator)) applier notifier)
        selection.targets aligned).2.PicksLike aligned :=
      forTargets_induction (P := fun shown => shown.PicksLike aligned)
        (fun h target => h.presentPick target pick) selection.targets (PicksLike.refl aligned)
    rw [if_pos hshares]
    refine halike.remembers ?_
    rw [← haligned]
    exact remembers_align (remembers_pick (hpick.trans hsome))

/-- A rotation whose targets share no pick shows what is picked for each of them, or fails at
one. -/
theorem rotateEach_leaves (hshares : plan.sharesPick selection = false) (rotator : Rotator)
    (applier : Applier) (notifier : Notifier) :
    rotator.Leaves plan selection applier notifier
      ((rotator.ready plan).rotateEach plan selection.targets applier notifier) := by
  have hnot : ¬plan.sharesPick selection = true := by simp [hshares]
  refine (isFair_pick plan).leaves (showsLike_ready rotator plan) ?_ (fun _ => ?_) ?_
  · rw [picks, if_neg hnot]
  · rw [ready_eq]
  · rintro earlier target w failure after - ⟨middle, -, hsome, -, hafter⟩
    rw [if_neg hnot, hafter]
    exact remembers_pick hsome

end Rotate

/-- What a rotation leaves behind, for all settings, libraries, states, random words and
appliers. -/
theorem rotate_leaves (rotator : Rotator) (plan : Plan) (selection : Selection) (applier : Applier)
    (notifier : Notifier) :
    rotator.Leaves plan selection applier notifier
      (rotator.rotate plan selection applier notifier) := by
  rw [rotate_eq]
  cases hshares : plan.sharesPick selection with
  | true => exact rotateTogether_leaves hshares rotator applier notifier
  | false => exact rotateEach_leaves hshares rotator applier notifier

end Rotator

end WallpaperRotation
