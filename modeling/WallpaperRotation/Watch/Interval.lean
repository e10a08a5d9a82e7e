/-
# Intervals

An interval is written as a number with a unit of time, or with none for seconds.  Blanks may stand
around the number and the unit.
-/
import WallpaperRotation.Text.Blank
import WallpaperRotation.Text.Decimal

namespace WallpaperRotation

/-- A length of time that lets a timer go on: at least one second. -/
structure Interval where
  seconds : Nat
  pos : 0 < seconds

namespace Interval

/-- The greatest number of seconds. -/
def greatest : Nat := 18446744073709551615

/-- The seconds in one unit. -/
def unitSeconds? (unit : List Char) : Option Nat :=
  match String.ofList unit with
  | "" | "s" | "sec" | "secs" => some 1
  | "m" | "min" | "mins" => some 60
  | "h" | "hr" | "hrs" => some (60 * 60)
  | "d" | "day" | "days" => some (24 * 60 * 60)
  | _ => none

/-- The interval that a text stands for. -/
def ofText? (text : String) : Option Interval := do
  let trimmed := Text.trim text.toList
  let digits := trimmed.takeWhile Char.isDigit
  let unit ← unitSeconds? (Text.trim (trimmed.dropWhile Char.isDigit))
  let seconds := Text.decimalValue digits * unit
  if h : digits ≠ [] ∧ 0 < seconds ∧ seconds ≤ greatest then some ⟨seconds, h.2.1⟩ else none

end Interval

end WallpaperRotation
