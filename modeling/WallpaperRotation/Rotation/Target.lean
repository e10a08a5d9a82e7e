/-
# Targets

Wallpapers are shown on two targets, the home screen and the lock screen.  A rotation is made for
one of them or for both.
-/

namespace WallpaperRotation

/-- A place where a wallpaper is shown. -/
inductive Target where
  | home
  | lock
  deriving DecidableEq, Repr

/-- The name of a target. -/
def Target.name : Target → String
  | .home => "home"
  | .lock => "lock"

/-- Both targets, in the order in which they are rotated. -/
def Target.all : List Target := [.home, .lock]

/-- Which targets a rotation is made for. -/
inductive Selection where
  | home
  | lock
  | both
  deriving DecidableEq, Repr

/-- The targets of a selection, in the order in which they are rotated. -/
def Selection.targets : Selection → List Target
  | .home => [.home]
  | .lock => [.lock]
  | .both => Target.all

/-- The selection as shown to people. -/
def Selection.displayName : Selection → String
  | .home => "Home"
  | .lock => "Lock"
  | .both => "Both"

/-- How the next wallpaper is chosen. -/
inductive Mode where
  /-- Candidates take their turns in order. -/
  | sequential
  /-- Any candidate that was not shown in the present cycle. -/
  | random
  deriving DecidableEq, Repr

/-- The mode as shown to people. -/
def Mode.displayName : Mode → String
  | .sequential => "Sequential"
  | .random => "Random"

end WallpaperRotation
