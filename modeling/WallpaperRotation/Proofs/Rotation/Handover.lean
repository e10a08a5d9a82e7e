/-
# What the applier is handed

Where records are checked before a rotation, the applier is handed none whose file is gone.  What is
picked for the targets is some record of the library that the check has left, be it from a scope or,
when the scope of a target has lost its last record, from the whole library.  Such a record was
sound on the disk that was checked, and it is sound on any disk that still has the files and the
folders of that one.
-/
import WallpaperRotation.Proofs.Library.Validation
import WallpaperRotation.Proofs.Rotation.InScope
import WallpaperRotation.Proofs.Rotation.InTurn

namespace WallpaperRotation

/-! ## Calls of the applier -/

/-- The wallpaper that the applier was handed, be it that it failed to put it on a target. -/
def Event.handed? : Event → Option Wallpaper
  | .applied _ w => some w
  | .refused _ w => some w
  | .told _ _ => none
  | .cleared _ => none

/-- Only a wallpaper that was put on a target is handed over for an outcome. -/
theorem Outcome.eq_applied_of_handed {outcome : Outcome} {event : Event} {w : Wallpaper}
    (hevent : event ∈ outcome.events) (hw : event.handed? = some w) :
    ∃ target, outcome = .applied target w := by
  cases outcome with
  | skipped target => cases hevent
  | applied target v =>
    simp only [events, List.mem_cons, List.not_mem_nil, or_false] at hevent
    rcases hevent with rfl | rfl
    · cases hw
      exact ⟨target, rfl⟩
    · cases hw

/-- A pick whose outcome is that a wallpaper was put on a target was this wallpaper. -/
theorem Outcome.eq_of_ofPick_eq_applied {pick : Target × Option Wallpaper} {target : Target}
    {w : Wallpaper} (h : ofPick pick = .applied target w) : pick = (target, some w) := by
  rcases pick with ⟨other, _ | v⟩
  · cases h
  · cases h
    rfl

/-- What is handed over for the outcomes of some picks is one of these picks. -/
theorem Outcome.mem_picks_of_handed {picks : List (Target × Option Wallpaper)} {event : Event}
    {w : Wallpaper} (hevent : event ∈ (picks.map ofPick).flatMap events)
    (hw : event.handed? = some w) : ∃ target, (target, some w) ∈ picks := by
  obtain ⟨outcome, houtcome, hevent⟩ := List.mem_flatMap.1 hevent
  obtain ⟨target, rfl⟩ := eq_applied_of_handed hevent hw
  obtain ⟨pick, hpick, heq⟩ := List.mem_map.1 houtcome
  exact ⟨target, eq_of_ofPick_eq_applied heq ▸ hpick⟩

/-- The applier leaves the disk as it is, whether it succeeds or fails. -/
structure Applier.LeavesDisk (applier : Applier) : Prop where
  apply : ∀ target w disk, (applier.apply target w disk).2 = disk
  clear : ∀ target disk, (applier.clear target disk).2 = disk

section Calls

variable {applier : Applier} {notifier : Notifier} {before after : Disk}

/-- Events came about one after the other when the first one left a disk on which the others did. -/
theorem cameAbout_cons_iff {event : Event} {events : List Event} :
    CameAbout applier notifier (event :: events) before after ↔
      ∃ disk, CameAbout applier notifier [event] before disk ∧
        CameAbout applier notifier events disk after := by
  cases event with
  | refused target w =>
    constructor
    · rintro ⟨failure, disk, happly, h⟩
      exact ⟨disk, ⟨failure, disk, happly, rfl⟩, h⟩
    · rintro ⟨disk, ⟨failure, _, happly, rfl⟩, h⟩
      exact ⟨failure, _, happly, h⟩
  | _ => simp [CameAbout]

/-- Events that came about one after the other left a disk in between. -/
theorem CameAbout.split {events others : List Event}
    (h : CameAbout applier notifier (events ++ others) before after) :
    ∃ middle, CameAbout applier notifier events before middle ∧
      CameAbout applier notifier others middle after := by
  induction events generalizing before with
  | nil => exact ⟨before, rfl, h⟩
  | cons event events ih =>
    obtain ⟨disk, hevent, h⟩ := cameAbout_cons_iff.1 h
    obtain ⟨middle, hevents, hothers⟩ := ih h
    exact ⟨middle, cameAbout_cons_iff.2 ⟨disk, hevent, hevents⟩, hothers⟩

/-- An event spares the files and the folders when the applier leaves the disk and telling people
spares them. -/
theorem CameAbout.spares_of_single {event : Event}
    (h : CameAbout applier notifier [event] before after) (hleaves : applier.LeavesDisk)
    (htold : ∀ target w, event = .told target w →
      ∀ disk, Disk.Spares disk (notifier target w disk)) : before.Spares after := by
  cases event with
  | applied target w =>
    obtain ⟨disk, happly, rfl⟩ := h
    have hsame := hleaves.apply target w before
    rw [happly] at hsame
    exact hsame ▸ Disk.Spares.refl disk
  | refused target w =>
    obtain ⟨failure, disk, happly, rfl⟩ := h
    have hsame := hleaves.apply target w before
    rw [happly] at hsame
    exact hsame ▸ Disk.Spares.refl disk
  | told target w =>
    cases h
    exact htold target w rfl before
  | cleared target =>
    obtain ⟨disk, hclear, rfl⟩ := h
    have hsame := hleaves.clear target before
    rw [hclear] at hsame
    exact hsame ▸ Disk.Spares.refl disk

/-- Events spare the files and the folders when each of them does. -/
theorem CameAbout.spares {events : List Event}
    (h : CameAbout applier notifier events before after) (hleaves : applier.LeavesDisk)
    (htold : ∀ target w, Event.told target w ∈ events →
      ∀ disk, Disk.Spares disk (notifier target w disk)) : before.Spares after := by
  induction events generalizing before with
  | nil =>
    cases h
    exact Disk.Spares.refl after
  | cons event events ih =>
    obtain ⟨disk, hevent, h⟩ := cameAbout_cons_iff.1 h
    refine (hevent.spares_of_single hleaves fun target w heq => ?_).trans
      (ih h fun target w hw => htold target w (List.mem_cons_of_mem event hw))
    exact htold target w (heq ▸ List.mem_cons_self)

end Calls

/-- A sound record stays sound where files and folders are spared. -/
theorem Library.isSound_of_spares {disk other : Disk} (h : disk.Spares other)
    {folders : List FilePath} {w : Wallpaper} (hw : isSound disk folders w = true) :
    isSound other folders w = true := by
  rw [isSound_eq, Bool.and_eq_true, Bool.not_eq_true', Bool.not_eq_true'] at hw ⊢
  exact ⟨hw.1, isLost_eq_false_of_spares h hw.2⟩

namespace Rotator

variable {rotator : Rotator} {plan : Plan} {selection : Selection} {applier : Applier}
  {notifier : Notifier} {w : Wallpaper}

/-! ## Picks of a rotation -/

/-- What is picked for a target is a record of the library. -/
theorem mem_wallpapers_of_pick (h : rotator.library.Consistent) {target : Target}
    (hw : (rotator.pick plan target).1 = some w) : w ∈ rotator.library.wallpapers := by
  rw [pick_eq] at hw
  cases hrestriction : rotator.restriction plan target with
  | none =>
    rw [hrestriction] at hw
    exact mem_of_selectRandom hw
  | some candidates =>
    rw [hrestriction] at hw
    obtain ⟨-, hcandidates⟩ := candidates_eq_of_restriction hrestriction
    exact ((Scope.mem_candidates_iff h hcandidates w).1 (TargetState.mem_of_select hw)).1

/-- What is picked for some targets in turn are records of the library. -/
theorem mem_wallpapers_of_pickEach (h : rotator.library.Consistent) {targets : List Target}
    {target : Target}
    (hw : (target, some w) ∈ pickEach (fun rotator target => rotator.pick plan target) targets
      rotator) : w ∈ rotator.library.wallpapers := by
  induction targets generalizing rotator with
  | nil => cases hw
  | cons first targets ih =>
    rw [pickEach, List.mem_cons] at hw
    rcases hw with heq | hw
    · exact mem_wallpapers_of_pick h (Prod.mk.inj heq).2.symm
    · rw [← library_pick rotator plan first] at h ⊢
      exact ih h hw

/-- What a rotation picks are records of the library that it is ready with. -/
theorem mem_wallpapers_of_picks (h : rotator.library.Consistent) {target : Target}
    (hw : (target, some w) ∈ rotator.picks plan selection) :
    w ∈ (rotator.ready plan).library.wallpapers := by
  unfold picks at hw
  split at hw
  · obtain ⟨_, -, heq⟩ := List.mem_map.1 hw
    exact mem_wallpapers_of_pick (consistent_ready h plan) (Prod.mk.inj heq).2
  · exact mem_wallpapers_of_pickEach (consistent_ready h plan) hw

/-- Where records are checked before a rotation, it is ready with the sound ones. -/
theorem library_ready (h : rotator.library.Consistent)
    (hvalidate : plan.config.library.validateBeforeRotate = true) :
    (rotator.ready plan).library =
      rotator.library.only (Library.isSound rotator.disk plan.folders) := by
  rw [ready, if_pos hvalidate]
  exact congrArg Prod.snd (h.check_eq rotator.disk plan.folders)

/-- A tag that no sound record carries is gone once the records were checked, and a target with
that scope gets any wallpaper of the library. -/
theorem restriction_eq_none_of_untagged (h : rotator.library.Consistent)
    (hvalidate : plan.config.library.validateBeforeRotate = true) {target : Target} {name : String}
    (hscope : plan.scope target = .tag name)
    (huntagged : ∀ w ∈ rotator.library.wallpapers,
      Library.isSound rotator.disk plan.folders w = true →
      normalizeTag name ∉ rotator.library.tagsOf w.id) :
    (rotator.ready plan).restriction plan target = none := by
  cases hrestriction : (rotator.ready plan).restriction plan target with
  | none => rfl
  | some candidates =>
    -- A tag that can be had holds a record that was left, and this one had the tag before.
    have hready := consistent_ready h plan
    obtain ⟨-, hcandidates⟩ := candidates_eq_of_restriction hrestriction
    rw [hscope] at hcandidates
    obtain ⟨w, hw⟩ := List.exists_mem_of_ne_nil _ (Scope.candidates_tag_ne_nil hready hcandidates)
    obtain ⟨hleft, htagged⟩ := (Scope.mem_candidates_iff hready hcandidates w).1 hw
    rw [Scope.Includes] at htagged
    rw [library_ready h hvalidate] at hleft htagged
    rw [Library.tagsOf_only hleft] at htagged
    obtain ⟨hrecord, hsound⟩ := List.mem_filter.1 hleft
    exact absurd htagged (huntagged w hrecord hsound)

/-! ## Calls of a rotation -/

/-- The events of a rotation came about, and what the applier was handed in them is what was picked
for a target. -/
theorem Leaves.exists_events {result : Except Failure (List Outcome) × Rotator}
    (h : rotator.Leaves plan selection applier notifier result) :
    ∃ events, result.2.events = rotator.events ++ events ∧
      CameAbout applier notifier events rotator.disk result.2.disk ∧
      ∀ event ∈ events, ∀ w, event.handed? = some w →
        ∃ target, (target, some w) ∈ rotator.picks plan selection := by
  rcases result with ⟨failure | outcomes, after⟩
  · -- The last call of a rotation that failed is the one that was refused.
    obtain ⟨earlier, target, w, later, h⟩ := h
    obtain ⟨disk, hcalls, happly⟩ := h.calls
    refine ⟨_, h.events_eq.trans (List.append_assoc _ _ _),
      hcalls.append ⟨failure, after.disk, happly, rfl⟩, fun event hevent v hv => ?_⟩
    rw [h.picks_eq]
    rcases List.mem_append.1 hevent with hevent | hevent
    · obtain ⟨other, hother⟩ := Outcome.mem_picks_of_handed hevent hv
      exact ⟨other, List.mem_append_left _ hother⟩
    · cases List.mem_singleton.1 hevent
      cases hv
      exact ⟨target, List.mem_append_right _ List.mem_cons_self⟩
  · refine ⟨_, h.events_eq, h.calls, fun event hevent v hv => ?_⟩
    rw [h.outcomes_eq] at hevent
    exact Outcome.mem_picks_of_handed hevent hv

/-- A wallpaper was handed to the applier behind some events.  It was sound on the disk that the
rotation began with.  The call was made on the disk that these events have left, and there it was
sound too, if the applier leaves the disk and those that people were told of before were told
without taking a file or a folder away.  -/
structure HandsSound (rotator : Rotator) (plan : Plan) (applier : Applier) (notifier : Notifier)
    (earlier : List Event) (call : Event) (later : List Event) (last : Disk) (w : Wallpaper) :
    Prop where
  sound : Library.isSound rotator.disk plan.folders w = true
  called : ∃ disk, CameAbout applier notifier earlier rotator.disk disk ∧
    CameAbout applier notifier (call :: later) disk last ∧
    (applier.LeavesDisk →
      (∀ target v, Event.told target v ∈ earlier →
        ∀ other, Disk.Spares other (notifier target v other)) →
      Library.isSound disk plan.folders w = true)

/-- Where records are checked before a rotation, the applier is handed sound records only: those
that have an existing file, an existing folder that is one of the configured ones, and the name of
an image.  That goes for all settings, libraries that operations make from the empty one, states,
random words, selections and appliers, and also for calls that fail.  A record is sound on the disk
that was checked, and on the one that the call was made on if the applier leaves the disk and
nothing was taken away when people were told before; before the first call nobody is told anything.
It makes no difference that the check took away the last record of a tag: a target with that scope
gets some wallpaper of the library that is left.  -/
theorem rotate_hands_sound {operations : List Operation}
    (hlibrary : rotator.library = Library.empty.run operations)
    (hvalidate : plan.config.library.validateBeforeRotate = true) (selection : Selection)
    (applier : Applier) (notifier : Notifier) :
    (∃ events,
      (rotator.rotate plan selection applier notifier).2.events = rotator.events ++ events ∧
      CameAbout applier notifier events rotator.disk
        (rotator.rotate plan selection applier notifier).2.disk ∧
      ∀ earlier call later w, events = earlier ++ call :: later → call.handed? = some w →
        rotator.HandsSound plan applier notifier earlier call later
          (rotator.rotate plan selection applier notifier).2.disk w) ∧
    ∀ target name, plan.scope target = .tag name →
      (∀ w ∈ rotator.library.wallpapers, Library.isSound rotator.disk plan.folders w = true →
        normalizeTag name ∉ rotator.library.tagsOf w.id) →
      (rotator.ready plan).pick plan target = (rotator.ready plan).pickFromLibrary plan := by
  have hconsistent := Library.consistent_of_eq_run hlibrary
  have hleaves : rotator.Leaves plan selection applier notifier
      (rotator.rotate plan selection applier notifier) := by
    rw [rotate_eq]
    cases hshares : plan.sharesPick selection with
    | true => exact rotateTogether_leaves hshares rotator applier notifier
    | false => exact rotateEach_leaves hshares rotator applier notifier
  obtain ⟨events, hevents, hcalls, hpicks⟩ := hleaves.exists_events
  refine ⟨⟨events, hevents, hcalls, fun earlier call later w hsplit hw => ?_⟩,
    fun target name hscope huntagged => ?_⟩
  · -- What the call handed over was picked, and picks are made from what the check has left.
    have hcall : call ∈ events := hsplit ▸ List.mem_append_right _ List.mem_cons_self
    obtain ⟨target, hpick⟩ := hpicks call hcall w hw
    have hleft := mem_wallpapers_of_picks hconsistent hpick
    rw [library_ready hconsistent hvalidate] at hleft
    have hsound := (List.mem_filter.1 hleft).2
    rw [hsplit] at hcalls
    obtain ⟨disk, hearlier, hlater⟩ := hcalls.split
    exact ⟨hsound, disk, hearlier, hlater, fun happlier htold =>
      Library.isSound_of_spares (hearlier.spares happlier htold) hsound⟩
  · rw [pick_eq, restriction_eq_none_of_untagged hconsistent hvalidate hscope huntagged]

/-- A record whose file is gone. -/
def goneRecord : Wallpaper := Library.imageRecord "gone" "gone.png"

/-- A rotator with an image and with a record whose file is gone, the only one that has a tag. -/
def lateRotator : Rotator :=
  ⟨⟨[Library.imageRecord Library.imageId "a.png", goneRecord], [⟨"day", IdSet.ofList ["gone"]⟩]⟩,
    RotationState.fresh, Words.replay [], Library.imageDisk, []⟩

/-- The records come from a scan and an insert, and the tag was put on the second one. -/
theorem library_lateRotator :
    lateRotator.library = Library.empty.run
      [.scan Library.imageDisk [⟨"walls"⟩] true .version, .insert goneRecord .version,
        .addTag "gone" "day"] := by
  have hscan : Library.empty.apply (.scan Library.imageDisk [⟨"walls"⟩] true .version) =
      Library.imageLibrary Library.imageId "a.png" := by decide +kernel
  simp only [Library.run, List.foldl_cons, List.foldl_nil, hscan, Library.imageLibrary]
  rw [Library.apply_insert_beside (by decide +kernel) (by decide +kernel)]
  decide +kernel

/-- The home screen goes in order through the folder and the lock screen through the tag, in another
spelling; records are checked. -/
def latePlan : Plan :=
  ⟨{ Config.initial ⟨"walls"⟩ with
      rotation := ⟨.sequential, .both, "30m"⟩
      home := ⟨none, some ⟨"walls"⟩⟩
      lock := ⟨some " Day", none⟩ }, ⟨"/home"⟩, Timestamp.ofEpoch 1709164800 0⟩

/-- Of an image and a record whose file is gone the home screen is handed the image, and the lock
screen, whose tag is gone too, gets some wallpaper of the library that is left. -/
theorem rotate_hands_sound_late :
    goneRecord ∈ lateRotator.library.wallpapers ∧
      Library.isSound Library.imageDisk latePlan.folders goneRecord = false ∧
      (∃ call told, call.handed? = some (Library.imageRecord Library.imageId "a.png") ∧
        (lateRotator.rotate latePlan .home idleApplier fun _ _ disk => disk).2.events =
          [call, told] ∧
        lateRotator.HandsSound latePlan idleApplier (fun _ _ disk => disk) [] call [told]
          Library.imageDisk (Library.imageRecord Library.imageId "a.png")) ∧
      (lateRotator.ready latePlan).pick latePlan .lock =
        (lateRotator.ready latePlan).pickFromLibrary latePlan := by
  obtain ⟨⟨events, hevents, -, hhands⟩, hfallback⟩ :=
    rotate_hands_sound library_lateRotator
      (show latePlan.config.library.validateBeforeRotate = true from rfl) .home idleApplier
      (fun _ _ disk => disk)
  have hcalls : (lateRotator.rotate latePlan .home idleApplier fun _ _ disk => disk).2.events =
      [.applied .home (Library.imageRecord Library.imageId "a.png"),
        .told .home (Library.imageRecord Library.imageId "a.png")] := by decide +kernel
  refine ⟨by decide +kernel, by decide +kernel, ⟨_, _, rfl, hcalls, ?_⟩,
    hfallback .lock " Day" rfl (by decide +kernel)⟩
  exact hhands [] _ _ _ (hevents.symm.trans hcalls) rfl

end Rotator

end WallpaperRotation
