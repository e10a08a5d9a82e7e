/-
# The state of a rotation

Each target has a position, a ledger and the path of the wallpaper that it shows.  A third ledger
serves the choices that are made from the whole library.
-/
import WallpaperRotation.Rotation.Select

namespace WallpaperRotation

/-! ## States -/

/-- How far one target has come. -/
structure TargetState where
  /-- The index of the last choice in order. -/
  cursor : UInt64
  ledger : Ledger
  /-- The wallpaper that is shown. -/
  current : Option FilePath
  deriving DecidableEq, Repr

/-- A target that has shown nothing yet. -/
def TargetState.fresh : TargetState := ⟨0, Ledger.empty, none⟩

/-- The target at the start of a new cycle; it goes on showing what it shows. -/
def TargetState.reset (state : TargetState) : TargetState :=
  { state with cursor := 0, ledger := Ledger.empty }

/-- How far a rotation has come. -/
structure RotationState where
  home : TargetState
  lock : TargetState
  /-- The ledger of the choices from the whole library. -/
  library : Ledger
  deriving DecidableEq, Repr

namespace RotationState

/-- A rotation that has shown nothing yet. -/
def fresh : RotationState := ⟨TargetState.fresh, TargetState.fresh, Ledger.empty⟩

/-- The state of a target. -/
def target (state : RotationState) : Target → TargetState
  | .home => state.home
  | .lock => state.lock

/-- The state with that of a target put in. -/
def setTarget (state : RotationState) (target : Target) (value : TargetState) : RotationState :=
  match target with
  | .home => { state with home := value }
  | .lock => { state with lock := value }

/-- The state with that of a target changed. -/
def updateTarget (state : RotationState) (target : Target)
    (change : TargetState → TargetState) : RotationState :=
  state.setTarget target (change (state.target target))

/-- A target has the state that was put in for it. -/
@[simp] theorem target_setTarget_self (state : RotationState) (target : Target)
    (value : TargetState) : (state.setTarget target value).target target = value := by
  cases target <;> rfl

/-- Putting in the state of one target leaves that of the other one as it was. -/
theorem target_setTarget_of_ne (state : RotationState) {target other : Target}
    (value : TargetState) (h : other ≠ target) :
    (state.setTarget target value).target other = state.target other := by
  cases target <;> cases other <;> first | rfl | exact absurd rfl h

/-- Putting in the state of a target leaves the ledger of the library as it was. -/
@[simp] theorem library_setTarget (state : RotationState) (target : Target)
    (value : TargetState) : (state.setTarget target value).library = state.library := by
  cases target <;> rfl

end RotationState

/-! ## Choosing for a target -/

/-- The next of the candidates for a target, in its mode, with the words left over. -/
def TargetState.select (state : TargetState) (candidates : List Wallpaper) (mode : Mode)
    (words : Words) (now : Timestamp) : Option Wallpaper × TargetState × Words :=
  match mode with
  | .sequential =>
    let (pick, cursor) := selectSequential candidates state.cursor
    (pick, { state with cursor := cursor }, words)
  | .random =>
    let (pick, chance) := selectRandom candidates ⟨state.ledger, words⟩ now
    (pick, { state with ledger := chance.ledger }, chance.words)

end WallpaperRotation
