/-
# Reachable rotators

The state of a rotation begins fresh or is loaded, and is changed by the operations of the program
only.  All states reached like that tell valid times in their ledgers, and whatever a rotator does
leaves its library and its state reachable.
-/
import WallpaperRotation.Proofs.Library.Run
import WallpaperRotation.Proofs.Rotation.Document
import WallpaperRotation.Proofs.Rotation.Pick

namespace WallpaperRotation

/-! ## Ledgers and targets -/

section Choices

variable {now : Timestamp}

/-- A showing at a valid time leaves a ledger with valid times. -/
theorem Ledger.Dated.record {ledger : Ledger} (h : ledger.Dated) (w : Wallpaper)
    (hnow : now.Valid) : (ledger.record w now).Dated := by
  intro entry hentry
  rcases List.mem_append.1 hentry with hold | hnew
  · exact h entry (List.mem_of_mem_filter hold)
  · obtain rfl := List.mem_singleton.1 hnew
    exact hnow

/-- The ledger of the next pick has valid times. -/
theorem Ledger.Dated.selectionPool {ledger : Ledger} (h : ledger.Dated)
    (candidates : List Wallpaper) : (selectionPool candidates ledger).2.Dated := by
  simp only [WallpaperRotation.selectionPool, exclusions]
  split
  · exact dated_empty
  · exact h

/-- A random choice at a valid time leaves a ledger with valid times. -/
theorem Ledger.Dated.selectRandom {ledger : Ledger} (h : ledger.Dated)
    (candidates : List Wallpaper) (words : Words) (hnow : now.Valid) :
    (selectRandom candidates ⟨ledger, words⟩ now).2.ledger.Dated := by
  have hpool := h.selectionPool candidates
  unfold WallpaperRotation.selectRandom
  split
  · exact h
  · dsimp only
    split
    · exact hpool.record _ hnow
    · exact hpool

/-- A choice for a target leaves a ledger with valid times. -/
theorem TargetState.dated_select {state : TargetState} (h : state.ledger.Dated)
    (candidates : List Wallpaper) (mode : Mode) (words : Words) (hnow : now.Valid) :
    (state.select candidates mode words now).2.1.ledger.Dated := by
  cases mode with
  | sequential => exact h
  | random => exact h.selectRandom candidates words hnow

end Choices

/-! ## States -/

namespace RotationState

/-- A target of a state with valid times has valid times. -/
theorem Dated.target {state : RotationState} (h : state.Dated) (target : Target) :
    (state.target target).ledger.Dated := by
  cases target with
  | home => exact h.home
  | lock => exact h.lock

/-- A state with valid times takes a target with valid times. -/
theorem Dated.setTarget {state : RotationState} (h : state.Dated) (target : Target)
    {value : TargetState} (hvalue : value.ledger.Dated) : (state.setTarget target value).Dated := by
  cases target with
  | home => exact ⟨hvalue, h.lock, h.library⟩
  | lock => exact ⟨h.home, hvalue, h.library⟩

/-- The states that the program comes to: those that it begins with, and what its operations make of
them.  Choices are made at times that a calendar and a clock can tell. -/
inductive Reachable : RotationState → Prop where
  | fresh : Reachable fresh
  | loaded {disk : Disk} {path : FilePath} {state : RotationState}
      (h : RotationState.load disk path = .ok state) : Reachable state
  /-- A wallpaper was chosen for a target. -/
  | selected {state : RotationState} (h : Reachable state) (target : Target)
      (candidates : List Wallpaper) (mode : Mode) (words : Words) {now : Timestamp}
      (hnow : now.Valid) :
      Reachable
        (state.setTarget target ((state.target target).select candidates mode words now).2.1)
  /-- A wallpaper was chosen from the whole library. -/
  | selectedFromLibrary {state : RotationState} (h : Reachable state)
      (candidates : List Wallpaper) (words : Words) {now : Timestamp} (hnow : now.Valid) :
      Reachable
        { state with library := (selectRandom candidates ⟨state.library, words⟩ now).2.ledger }
  /-- The lock screen took over the position of the home screen. -/
  | aligned {state : RotationState} (h : Reachable state) :
      Reachable
        (state.updateTarget .lock fun progress => { progress with cursor := state.home.cursor })
  /-- A wallpaper was put on a target. -/
  | shown {state : RotationState} (h : Reachable state) (target : Target) (path : FilePath) :
      Reachable (state.updateTarget target fun progress => { progress with current := some path })
  /-- A file was deleted. -/
  | forgotten {state : RotationState} (h : Reachable state) (path : FilePath) :
      Reachable
        { state with home := Rotator.forget path state.home
                     lock := Rotator.forget path state.lock }
  /-- A target was restricted anew. -/
  | reset {state : RotationState} (h : Reachable state) (target : Target) :
      Reachable (state.updateTarget target TargetState.reset)
  /-- The ledger of a target was cleared. -/
  | cleared {state : RotationState} (h : Reachable state) (target : Target) :
      Reachable (state.updateTarget target fun progress => { progress with ledger := Ledger.empty })
  /-- The ledger of the library was cleared. -/
  | clearedLibrary {state : RotationState} (h : Reachable state) :
      Reachable { state with library := Ledger.empty }

/-- Forgetting a file leaves the ledger of a target as it was. -/
theorem ledger_forget (path : FilePath) (state : TargetState) :
    (Rotator.forget path state).ledger = state.ledger := by
  unfold Rotator.forget
  split <;> rfl

/-- A state that the program comes to has valid times. -/
theorem Reachable.dated {state : RotationState} (h : state.Reachable) : state.Dated := by
  induction h with
  | fresh => exact dated_fresh
  | loaded h => exact dated_of_load h
  | selected h target candidates mode words hnow ih =>
    exact ih.setTarget target (TargetState.dated_select (ih.target target) candidates mode words hnow)
  | selectedFromLibrary h candidates words hnow ih =>
    exact ⟨ih.home, ih.lock, ih.library.selectRandom candidates words hnow⟩
  | aligned h ih => exact ih.setTarget .lock ih.lock
  | shown h target path ih => exact ih.setTarget target (ih.target target)
  | forgotten h path ih =>
    refine ⟨?_, ?_, ih.library⟩
    · rw [ledger_forget]
      exact ih.home
    · rw [ledger_forget]
      exact ih.lock
  | reset h target ih => exact ih.setTarget target Ledger.dated_empty
  | cleared h target ih => exact ih.setTarget target Ledger.dated_empty
  | clearedLibrary h ih => exact ⟨ih.home, ih.lock, Ledger.dated_empty⟩

/-- The program comes to every state with valid times: it may be loaded. -/
theorem Dated.reachable {state : RotationState} (h : state.Dated) : state.Reachable := by
  have hkeeps : (⟨[(["s"], .file state.text.toUTF8 0)], [], 0⟩ : Disk).Keeps ⟨"s"⟩ state.text :=
    ⟨["s"], 0, rfl⟩
  exact .loaded (load_of_keeps h hkeeps)

end RotationState

/-! ## Rotators -/

namespace Rotator

/-- The library is what operations make of the empty one, and the state is one that the program
comes to. -/
structure Reachable (rotator : Rotator) : Prop where
  library : ∃ operations, rotator.library = Library.empty.run operations
  state : rotator.state.Reachable

section Reachable

variable {rotator : Rotator} {plan : Plan} {applier : Applier} {notifier : Notifier}

/-- An operation on the library leaves it reachable. -/
theorem Reachable.apply_library (h : rotator.Reachable) (operation : Operation) :
    { rotator with library := rotator.library.apply operation }.Reachable := by
  obtain ⟨operations, hlibrary⟩ := h.library
  refine ⟨⟨operations ++ [operation], ?_⟩, h.state⟩
  rw [hlibrary, Library.run, Library.run, List.foldl_append]
  rfl

/-- Dropping records without files leaves a reachable rotator. -/
theorem Reachable.validate (h : rotator.Reachable) (plan : Plan) :
    (rotator.validate plan).2.Reachable :=
  (h.apply_library .sanitize).apply_library (.purge rotator.disk plan.folders)

/-- A pick at a valid time leaves a reachable state, whatever the library is. -/
theorem reachable_state_pick (h : rotator.state.Reachable) (hnow : plan.now.Valid)
    (target : Target) : (rotator.pick plan target).2.state.Reachable := by
  rw [pick_eq]
  split
  · rename_i candidates _
    exact h.selected target candidates plan.config.rotation.mode rotator.words hnow
  · exact h.selectedFromLibrary rotator.library.wallpapers rotator.words hnow

/-- A pick leaves a reachable rotator. -/
theorem Reachable.pick (h : rotator.Reachable) (hnow : plan.now.Valid) (target : Target) :
    (rotator.pick plan target).2.Reachable :=
  ⟨by rw [library_pick]; exact h.library, reachable_state_pick h.state hnow target⟩

/-- Putting what was picked on a target leaves a reachable state, also when that fails. -/
theorem reachable_state_presentPick (h : rotator.state.Reachable) (target : Target)
    (pick : Option Wallpaper) :
    (rotator.presentPick applier notifier target pick).2.state.Reachable := by
  cases pick with
  | none => exact h
  | some w =>
    unfold Rotator.presentPick present
    dsimp only
    split
    · exact h
    · exact h.shown target w.path

/-- Putting what was picked on a target leaves a reachable rotator, also when that fails. -/
theorem Reachable.presentPick (h : rotator.Reachable) (target : Target)
    (pick : Option Wallpaper) :
    (rotator.presentPick applier notifier target pick).2.Reachable :=
  ⟨by rw [library_presentPick]; exact h.library, reachable_state_presentPick h.state target pick⟩

/-- What the step for each of some targets leaves so is left so by all of them, up to the one that
fails. -/
theorem forTargets_induction_of_mem {P : Rotator → Prop}
    {step : Rotator → Target → Except Failure Outcome × Rotator} {targets : List Target}
    (hstep : ∀ {rotator}, P rotator → ∀ target ∈ targets, P (step rotator target).2)
    (h : P rotator) : P (forTargets step targets rotator).2 := by
  induction targets generalizing rotator with
  | nil => exact h
  | cons target targets ih =>
    have hnext := hstep h target List.mem_cons_self
    unfold forTargets
    split
    · rename_i heq
      rwa [heq] at hnext
    · rename_i next heq
      rw [heq] at hnext
      have hothers := ih (fun h target htarget => hstep h target (List.mem_cons_of_mem _ htarget))
        hnext
      split <;> rename_i heq <;> rwa [heq] at hothers

/-- What each step leaves so is left so by all of them, up to the one that fails. -/
theorem forTargets_induction {P : Rotator → Prop}
    {step : Rotator → Target → Except Failure Outcome × Rotator}
    (hstep : ∀ {rotator}, P rotator → ∀ target, P (step rotator target).2) (targets : List Target)
    (h : P rotator) : P (forTargets step targets rotator).2 :=
  forTargets_induction_of_mem (fun h target _ => hstep h target) h

/-- What checking the records, a pick, taking over a position and a showing leave so is left so by a
rotation, also by one that fails. -/
theorem rotate_induction {P : Rotator → Prop}
    (hvalidate : ∀ {rotator}, P rotator → P (rotator.validate plan).2)
    (hpick : ∀ {rotator}, P rotator → ∀ target, P (rotator.pick plan target).2)
    (halign : ∀ {rotator}, P rotator → P rotator.align)
    (hpresent : ∀ {rotator}, P rotator → ∀ target pick,
      P (rotator.presentPick applier notifier target pick).2)
    (selection : Selection) (h : P rotator) :
    P (rotator.rotate plan selection applier notifier).2 := by
  have hready : P (rotator.ready plan) := by
    unfold ready
    split
    · exact hvalidate h
    · exact h
  rw [rotate_eq]
  split
  · rw [rotateTogether_eq]
    exact forTargets_induction (P := P) (fun h target => hpresent h target _) Target.all
      (halign (hpick hready .home))
  · exact forTargets_induction (P := P) (fun h target => hpresent (hpick h target) target _)
      selection.targets hready

/-- A rotation at a valid time leaves a reachable state, whatever the library is. -/
theorem reachable_state_rotate (h : rotator.state.Reachable) (hnow : plan.now.Valid)
    (selection : Selection) (applier : Applier) (notifier : Notifier) :
    (rotator.rotate plan selection applier notifier).2.state.Reachable :=
  rotate_induction (P := fun rotator => rotator.state.Reachable) id
    (fun h => reachable_state_pick h hnow) (fun h => h.aligned)
    (fun h => reachable_state_presentPick h) selection h

/-- A rotation leaves a reachable rotator, also one that fails. -/
theorem Reachable.rotate (h : rotator.Reachable) (hnow : plan.now.Valid) (selection : Selection)
    (applier : Applier) (notifier : Notifier) :
    (rotator.rotate plan selection applier notifier).2.Reachable :=
  rotate_induction (fun h => h.validate plan) (fun h => h.pick hnow)
    (fun h => ⟨h.library, h.state.aligned⟩) (fun h => h.presentPick) selection h

/-- Forgetting a file leaves the position of a target. -/
theorem cursor_forget (path : FilePath) (state : TargetState) :
    (forget path state).cursor = state.cursor := by
  unfold forget
  split <;> rfl

/-- Deleting what a target shows leaves the library and the state, or drops the record of the file
that the target shows and no target shows the file. -/
theorem deleteCurrent_cases (rotator : Rotator) (target : Target) (applier : Applier) :
    ((rotator.deleteCurrent target applier).2.library = rotator.library ∧
        (rotator.deleteCurrent target applier).2.state = rotator.state) ∨
      ∃ path, (rotator.state.target target).current = some path ∧
        (rotator.deleteCurrent target applier).2.library =
          rotator.library.apply (.removeByPath path) ∧
        (rotator.deleteCurrent target applier).2.state =
          { rotator.state with
            home := forget path rotator.state.home
            lock := forget path rotator.state.lock } := by
  unfold Rotator.deleteCurrent
  split
  · exact Or.inl ⟨rfl, rfl⟩
  · rename_i path hpath
    split
    · exact Or.inl ⟨rfl, rfl⟩
    · dsimp only
      split
      · exact Or.inl ⟨rfl, rfl⟩
      · split
        · exact Or.inl ⟨rfl, rfl⟩
        · refine Or.inr ⟨path, hpath, ?_⟩
          unfold dropFile
          dsimp only [log, Library.apply]
          cases rotator.library.removeByPath? path with
          | none => exact ⟨rfl, rfl⟩
          | some removed => exact ⟨rfl, rfl⟩

/-- Deleting what a target shows leaves a reachable state, whatever the library is. -/
theorem reachable_state_deleteCurrent (h : rotator.state.Reachable) (target : Target)
    (applier : Applier) : (rotator.deleteCurrent target applier).2.state.Reachable := by
  rcases rotator.deleteCurrent_cases target applier with ⟨-, hstate⟩ | ⟨path, -, -, hstate⟩
  · rwa [hstate]
  · rw [hstate]
    exact h.forgotten path

/-- Deleting what a target shows leaves a reachable rotator. -/
theorem Reachable.deleteCurrent (h : rotator.Reachable) (target : Target) (applier : Applier) :
    (rotator.deleteCurrent target applier).2.Reachable := by
  refine ⟨?_, reachable_state_deleteCurrent h.state target applier⟩
  rcases rotator.deleteCurrent_cases target applier with ⟨hlibrary, -⟩ | ⟨path, -, hlibrary, -⟩
  · rw [hlibrary]
    exact h.library
  · rw [hlibrary]
    exact (h.apply_library (.removeByPath path)).library

end Reachable

end Rotator

end WallpaperRotation
