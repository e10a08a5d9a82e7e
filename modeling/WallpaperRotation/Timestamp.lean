/-
# Timestamps

Points in time, in universal time, as they are kept in a ledger.  They are written with a `T` and a
`Z` and as many digits of a second as they need, in groups of three.  Reading takes other offsets
and more blanks than are ever written.
-/
import WallpaperRotation.Text.Blank
import WallpaperRotation.Text.Decimal

namespace WallpaperRotation

/-! ## Dates -/

/-- A day of the calendar. -/
structure Date where
  year : Int
  month : Nat
  day : Nat
  deriving DecidableEq, Repr

namespace Date

/-- The year has a 29th of February. -/
def isLeap (year : Int) : Bool :=
  year % 4 = 0 && (year % 100 ≠ 0 || year % 400 = 0)

/-- The number of days in a month. -/
def daysIn (year : Int) (month : Nat) : Nat :=
  if month = 2 then (if isLeap year then 29 else 28)
  else if month = 4 ∨ month = 6 ∨ month = 9 ∨ month = 11 then 30
  else 31

/-- The first and the last year of the calendar. -/
def firstYear : Int := -262143
def lastYear : Int := 262142

/-- The date, when the calendar has it. -/
def of? (year : Int) (month day : Nat) : Option Date :=
  if firstYear ≤ year ∧ year ≤ lastYear ∧ 1 ≤ month ∧ month ≤ 12 ∧ 1 ≤ day ∧
      day ≤ daysIn year month then
    some ⟨year, month, day⟩
  else none

/-- The day after. -/
def next (date : Date) : Date :=
  if date.day < daysIn date.year date.month then { date with day := date.day + 1 }
  else if date.month < 12 then ⟨date.year, date.month + 1, 1⟩
  else ⟨date.year + 1, 1, 1⟩

/-- The day before. -/
def previous (date : Date) : Date :=
  if 1 < date.day then { date with day := date.day - 1 }
  else if 1 < date.month then ⟨date.year, date.month - 1, daysIn date.year (date.month - 1)⟩
  else ⟨date.year - 1, 12, 31⟩

end Date

/-! ## Points in time -/

/-- The seconds of a day. -/
def secondsOfDay : Nat := 86400

/-- A point in universal time: a day, a second of it and billionths of a second.  A thousand
million of them or more are a leap second after that second. -/
structure Timestamp where
  date : Date
  second : Nat
  nanos : Nat
  deriving DecidableEq, Repr

namespace Timestamp

/-! ## Writing -/

/-- A number in so many digits at least. -/
def padded (width n : Nat) : List Char :=
  let digits := (toString n).toList
  List.replicate (width - digits.length) '0' ++ digits

/-- A year in four digits, with a sign where that is not enough. -/
def yearText (year : Int) : List Char :=
  if 0 ≤ year ∧ year ≤ 9999 then padded 4 year.toNat
  else (if year < 0 then '-' else '+') :: padded 4 year.natAbs

/-- A date with hyphens. -/
def dateText (date : Date) : List Char :=
  yearText date.year ++ '-' :: padded 2 date.month ++ '-' :: padded 2 date.day

/-- The hours and minutes of a second of the day. -/
def minuteText (second : Nat) : List Char :=
  padded 2 (second / 3600) ++ ':' :: padded 2 (second / 60 % 60)

/-- Billionths of a second in none, three, six or nine digits. -/
def fractionText (nanos : Nat) : List Char :=
  if nanos = 0 then []
  else if nanos % 1000000 = 0 then '.' :: padded 3 (nanos / 1000000)
  else if nanos % 1000 = 0 then '.' :: padded 6 (nanos / 1000)
  else '.' :: padded 9 nanos

/-- The timestamp as it is kept. -/
def text (t : Timestamp) : String :=
  let leap := t.nanos / 1000000000
  String.ofList (dateText t.date ++ 'T' :: minuteText t.second ++ ':' ::
    padded 2 (t.second % 60 + leap) ++ fractionText (t.nanos % 1000000000) ++ ['Z'])

/-- The timestamp for people, to the minute. -/
def shortText (t : Timestamp) : String :=
  String.ofList (dateText t.date ++ ' ' :: minuteText t.second)

/-! ## Counting from the epoch -/

/-- The day so many days after the first of January 1970.  Years are counted from March on, so that
the day that leap years have more is the last one; four hundred years have 146097 days. -/
def dateOfDays (days : Int) : Date :=
  let shifted := days + 719468
  let dayOfEra := (shifted % 146097).toNat
  let yearOfEra := (dayOfEra - dayOfEra / 1460 + dayOfEra / 36524 - dayOfEra / 146096) / 365
  let dayOfYear := dayOfEra - (365 * yearOfEra + yearOfEra / 4 - yearOfEra / 100)
  let monthFromMarch := (5 * dayOfYear + 2) / 153
  let day := dayOfYear - (153 * monthFromMarch + 2) / 5 + 1
  let month := if monthFromMarch < 10 then monthFromMarch + 3 else monthFromMarch - 9
  let year := (yearOfEra : Int) + 400 * (shifted / 146097) + if month ≤ 2 then 1 else 0
  ⟨year, month, day⟩

/-- The point in time so many seconds after the start of 1970. -/
def ofEpoch (seconds : Int) (nanos : Nat) : Timestamp :=
  ⟨dateOfDays (seconds / secondsOfDay), (seconds % secondsOfDay).toNat, nanos⟩

/-! ## Reading -/

/-- A number of at least one and, where there is a limit, at most so many digits, behind blanks. -/
def number? (limit : Option Nat) (text : List Char) : Option (Nat × List Char) :=
  let text := Text.trimStart text
  let all := text.takeWhile Char.isDigit
  let digits := match limit with | some n => all.take n | none => all
  if digits = [] then none else some (Text.decimalValue digits, text.drop digits.length)

/-- A year: four digits at most, or any number of them behind a sign. -/
def year? (text : List Char) : Option (Int × List Char) :=
  let signed (rest : List Char) : Option (Nat × List Char) :=
    if rest.head?.any Char.isDigit then number? none rest else none
  match Text.trimStart text with
  | '-' :: rest => (signed rest).map fun (n, rest) => (-(n : Int), rest)
  | '+' :: rest => (signed rest).map fun (n, rest) => ((n : Int), rest)
  | text => (number? (some 4) text).map fun (n, rest) => ((n : Int), rest)

/-- What is behind a mark, which may stand behind blanks. -/
def behindMark? (mark : Char) (text : List Char) : Option (List Char) :=
  match Text.trimStart text with
  | c :: rest => if c = mark then some rest else none
  | [] => none

/-- A number below a bound, of one or two digits. -/
def below? (bound : Nat) (text : List Char) : Option (Nat × List Char) := do
  let (n, rest) ← number? (some 2) text
  if n < bound then some (n, rest) else none

/-- Billionths of a second behind a point; digits beyond the ninth do not count. -/
def fraction? : List Char → Option (Nat × List Char)
  | '.' :: rest =>
    let digits := rest.takeWhile Char.isDigit
    if digits = [] then none
    else
      let kept := digits.take 9
      some (Text.decimalValue kept * Nat.pow 10 (9 - kept.length), rest.dropWhile Char.isDigit)
  | text => some (0, text)

/-- The number of two digits. -/
def twoDigits? : List Char → Option (Nat × List Char)
  | a :: b :: rest =>
    if a.isDigit && b.isDigit then some (Text.decimalValue [a, b], rest) else none
  | _ => none

/-- An offset from universal time in seconds. -/
def offset? (text : List Char) : Option (Int × List Char) := do
  let numeric (negative : Bool) (rest : List Char) : Option (Int × List Char) := do
    let (hours, rest) ← twoDigits? rest
    let rest := rest.dropWhile fun c => c = ':' || Text.isBlank c
    let (minutes, rest) ← twoDigits? rest
    if minutes < 60 then
      let seconds : Int := hours * 3600 + minutes * 60
      some (if negative then -seconds else seconds, rest)
    else none
  match Text.trimStart text with
  | c :: rest =>
    if (c :: rest.take 2).map Char.toUpper = ['U', 'T', 'C'] then some (0, rest.drop 2)
    else if c = 'Z' ∨ c = 'z' then some (0, rest)
    else if c = '+' then numeric false rest
    else if c = '-' ∨ c = Char.ofNat 0x2212 then numeric true rest
    else none
  | [] => none

/-- The timestamp in universal time of a second of a day at an offset of less than a day, when the
calendar has its date. -/
def atOffset? (date : Date) (second nanos : Nat) (offset : Int) : Option Timestamp :=
  let shifted := (second : Int) - offset
  let (day, second) : Date × Int :=
    if shifted < 0 then (date.previous, shifted + secondsOfDay)
    else if shifted ≥ secondsOfDay then (date.next, shifted - secondsOfDay)
    else (date, shifted)
  (Date.of? day.year day.month day.day).map fun day => ⟨day, second.toNat, nanos⟩

/-- The timestamp that a text stands for. -/
def ofText? (text : String) : Option Timestamp := do
  let (year, rest) ← year? text.toList
  let rest ← behindMark? '-' rest
  let (month, rest) ← number? (some 2) rest
  let rest ← behindMark? '-' rest
  let (day, rest) ← number? (some 2) rest
  let date ← Date.of? year month day
  let (mark, rest) ← match rest with | c :: rest => some (c, rest) | [] => none
  if mark ≠ 't' ∧ mark ≠ 'T' ∧ mark ≠ ' ' then none
  let (hour, rest) ← below? 24 rest
  let rest ← behindMark? ':' rest
  let (minute, rest) ← below? 60 rest
  let rest ← behindMark? ':' rest
  let (second, rest) ← below? 61 rest
  let (nanos, rest) ← fraction? rest
  let (offset, rest) ← offset? rest
  if Text.trimStart rest ≠ [] ∨ offset.natAbs ≥ secondsOfDay then none
  let leap := second / 60
  atOffset? date (hour * 3600 + minute * 60 + (second - leap)) (nanos + leap * 1000000000) offset

end Timestamp

end WallpaperRotation
