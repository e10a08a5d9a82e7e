/-
# What rotating and deleting change

A rotation changes the parts of the state that belong to its targets, and the ledger of the library;
in the library it edits records alone.  A deletion changes what the targets show, and takes away the
record of the file.  The library may be any that was loaded, and need not be consistent.
-/
import WallpaperRotation.Proofs.Library.Edits
import WallpaperRotation.Proofs.Rotation.Apart

namespace WallpaperRotation

/-! ## Parts of a state -/

namespace RotationState

/-- A part of a state. -/
inductive Part where
  | cursor (target : Target)
  | ledger (target : Target)
  /-- What the target shows. -/
  | current (target : Target)
  /-- The ledger of the choices from the whole library. -/
  | library
  deriving DecidableEq

/-- The target that a part belongs to; `none` for the ledger of the library. -/
def Part.target? : Part → Option Target
  | .cursor target | .ledger target | .current target => some target
  | .library => none

/-- Two states are the same in a part. -/
def AgreesIn (state : RotationState) (part : Part) (other : RotationState) : Prop :=
  match part with
  | .cursor target => (state.target target).cursor = (other.target target).cursor
  | .ledger target => (state.target target).ledger = (other.target target).ledger
  | .current target => (state.target target).current = (other.target target).current
  | .library => state.library = other.library

variable {state other third : RotationState} {part : Part} {target : Target}

/-- A state is the same as itself. -/
theorem AgreesIn.refl (state : RotationState) (part : Part) : state.AgreesIn part state := by
  cases part <;> exact rfl

/-- States that are the same as one in between are the same. -/
theorem AgreesIn.trans (h : state.AgreesIn part other) (hthird : other.AgreesIn part third) :
    state.AgreesIn part third := by
  cases part <;> exact Eq.trans h hthird

/-- States with the same of a target are the same in its parts. -/
theorem agreesIn_of_target_eq (hpart : part.target? = some target)
    (h : state.target target = other.target target) : state.AgreesIn part other := by
  cases part <;> cases hpart
  · exact congrArg TargetState.cursor h
  · exact congrArg TargetState.ledger h
  · exact congrArg TargetState.current h

/-- Changing a target changes no part but those of the target where it changes them. -/
theorem agreesIn_updateTarget {change : TargetState → TargetState}
    (hcursor : part = .cursor target → (change (state.target target)).cursor =
      (state.target target).cursor)
    (hledger : part = .ledger target → (change (state.target target)).ledger =
      (state.target target).ledger)
    (hcurrent : part = .current target → (change (state.target target)).current =
      (state.target target).current) :
    (state.updateTarget target change).AgreesIn part state := by
  cases hpart : part.target? with
  | none =>
    cases part <;> cases hpart
    exact library_setTarget _ _ _
  | some other =>
    by_cases hsame : other = target
    · subst hsame
      cases part <;> cases hpart <;>
        simp only [AgreesIn, updateTarget, target_setTarget_self, hcursor, hledger, hcurrent]
    · exact agreesIn_of_target_eq hpart (target_setTarget_of_ne _ _ hsame)

end RotationState

/-- A rotation for the selection may change the part: it belongs to one of the targets, or to
none. -/
def Selection.WorksOn (selection : Selection) (part : RotationState.Part) : Prop :=
  ∀ target, part.target? = some target → target ∈ selection.targets

namespace Rotator

variable {rotator : Rotator} {plan : Plan} {applier : Applier} {notifier : Notifier}
  {part : RotationState.Part}

/-! ## Rotating -/

/-- A rotation leaves the parts of the state that it is not for. -/
theorem agreesIn_rotate {selection : Selection} (h : ¬selection.WorksOn part) :
    (rotator.rotate plan selection applier notifier).2.state.AgreesIn part rotator.state := by
  unfold Selection.WorksOn at h
  push Not at h
  obtain ⟨target, hpart, htarget⟩ := h
  exact RotationState.agreesIn_of_target_eq hpart
    (target_rotate_of_not_mem htarget rotator plan applier notifier)

/-- A rotation edits records alone. -/
theorem refiled_rotate (rotator : Rotator) (plan : Plan) (selection : Selection)
    (applier : Applier) (notifier : Notifier) :
    rotator.library.Refiled (rotator.rotate plan selection applier notifier).2.library := by
  rw [library_rotate, ready]
  split
  · exact (Library.refiled_sanitize _).trans (Library.refiled_purge _ _ _)
  · exact (Library.Edited.refl _).refiled

/-! ## Deleting -/

/-- A deletion leaves all of the state but what targets show. -/
theorem agreesIn_deleteCurrent {target : Target} (h : ∀ other, part ≠ .current other) :
    (rotator.deleteCurrent target applier).2.state.AgreesIn part rotator.state := by
  rcases rotator.deleteCurrent_cases target applier with ⟨-, hstate⟩ | ⟨path, -, -, hstate⟩
  · rw [hstate]
    exact .refl _ _
  · rw [hstate]
    cases part with
    | cursor other => cases other <;> exact cursor_forget path _
    | ledger other => cases other <;> exact RotationState.ledger_forget path _
    | current other => exact absurd rfl (h other)
    | library => exact rfl

/-- A deletion takes away the record of the file that the target shows, if anything. -/
theorem library_deleteCurrent (rotator : Rotator) (target : Target) (applier : Applier) :
    (rotator.deleteCurrent target applier).2.library = rotator.library ∨
      ∃ path w, (rotator.state.target target).current = some path ∧
        rotator.library.byPath? path = some w ∧
        rotator.library.Edited [.remove w.id] (rotator.deleteCurrent target applier).2.library := by
  rcases rotator.deleteCurrent_cases target applier with
    ⟨hlibrary, -⟩ | ⟨path, hpath, hlibrary, -⟩
  · exact Or.inl hlibrary
  · dsimp only [Library.apply, Library.removeByPath?] at hlibrary
    cases hfound : rotator.library.byPath? path with
    | none =>
      rw [hfound] at hlibrary
      exact Or.inl hlibrary
    | some w =>
      rw [hfound, Option.bind_some] at hlibrary
      cases hremove : rotator.library.remove? w.id with
      | none =>
        rw [hremove] at hlibrary
        exact Or.inl hlibrary
      | some removed =>
        rw [hremove] at hlibrary
        rw [hlibrary]
        exact Or.inr ⟨path, w, hpath, hfound, .remove hremove (.refl removed.2)⟩

end Rotator

end WallpaperRotation
