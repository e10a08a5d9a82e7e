/-
# Parts of a run of the program

A run is made of parts that follow each other.  The part in which a rotator works on a library and a
state changes the words, the disk and the lines of the console: the rotator leaves its words and its
disk, and all that is done besides is to print.
-/
import WallpaperRotation.CommandLine.Program
import WallpaperRotation.Proofs.Rotation.Persistence

namespace WallpaperRotation.CommandLine

/-! ## Parts that follow each other -/

section Parts

variable {A B : Type} {console next : Console}

/-- Behind a part that comes to something, the others go on from where it ended. -/
theorem run_bind {part : ConsoleM A} {value : A} (h : part.run.run console = (.ok value, next))
    (others : A → ConsoleM B) :
    (part >>= others).run.run console = (others value).run.run next := by
  rw [ExceptT.run_bind, StateT.run_bind, h]
  rfl

/-- Looking at the console leaves it as it is. -/
theorem run_get : (get : ConsoleM Console).run.run console = (.ok console, console) :=
  rfl

/-- Printing lines does nothing else. -/
theorem run_sayAll (texts : List String) (console : Console) :
    ∃ printed, (sayAll texts).run.run console = (.ok (), { console with printed := printed }) := by
  induction texts generalizing console with
  | nil => exact ⟨console.printed, rfl⟩
  | cons text texts ih =>
    obtain ⟨printed, hprinted⟩ := ih
      { console with printed := console.printed ++ (Text.lines text.toList).map String.ofList }
    exact ⟨printed, hprinted⟩

end Parts

namespace Desk

/-- A rotator leaves its words and its disk, and what came of its work is told. -/
theorem run_rotating {A : Type} (desk : Desk) (library : Library) (state : RotationState)
    (work : Rotator → Except Failure A × Rotator) (console : Console) :
    ∃ printed, (desk.rotating library state work).run.run console =
      let (result, rotator) := work ⟨library, state, console.words, console.disk, []⟩
      (result.map fun value => (value, rotator),
        { console with words := rotator.words, disk := rotator.disk, printed := printed }) := by
  cases hwork : work ⟨library, state, console.words, console.disk, []⟩ with
  | mk result rotator =>
    obtain ⟨printed, hprinted⟩ := run_sayAll (desk.eventLines rotator.events)
      { console with words := rotator.words, disk := rotator.disk }
    refine ⟨printed, ?_⟩
    have hset : (set { console with words := rotator.words, disk := rotator.disk } :
        ConsoleM PUnit).run.run console =
          (.ok ⟨⟩, { console with words := rotator.words, disk := rotator.disk }) := rfl
    unfold rotating
    rw [run_bind run_get, hwork]
    dsimp only
    rw [run_bind hset, run_bind hprinted]
    cases result with
    | error failure => rfl
    | ok value => rfl

/-- The rotation that the program makes for a selection. -/
def rotation (desk : Desk) (selection : Option Selection) : Rotation :=
  ⟨desk.plan, selection.getD desk.plan.config.rotation.target, desk.plan.config.apply.applier,
    desk.plan.config.notifications.notifier⟩

end Desk

end WallpaperRotation.CommandLine
