/-
# Numbers and moments of TOML documents

Integers keep their value.  Numbers with a fraction, dates and times are only checked: nothing in
this library asks what they are worth.
-/
import WallpaperRotation.Text.Decimal
import WallpaperRotation.Toml.Item
import WallpaperRotation.Toml.Text

namespace WallpaperRotation.Toml

/-! ## Digits -/

/-- Digits with single underscores between them, behind the first digit; the digits are kept. -/
def moreDigits? (isDigit : Char → Bool) : Reader (List Char)
  | '_' :: c :: rest =>
    if isDigit c then (moreDigits? isDigit rest).map fun (digits, rest) => (c :: digits, rest)
    else none
  | ['_'] => none
  | c :: rest =>
    if isDigit c then (moreDigits? isDigit rest).map fun (digits, rest) => (c :: digits, rest)
    else some ([], c :: rest)
  | [] => some ([], [])

/-- At least one digit, with single underscores between them. -/
def digits? (isDigit : Char → Bool) : Reader (List Char)
  | c :: rest =>
    if isDigit c then (moreDigits? isDigit rest).map fun (digits, rest) => (c :: digits, rest)
    else none
  | [] => none

/-- The number that digits of a base make up. -/
def valueIn (base : Nat) (digits : List Char) : Nat :=
  digits.foldl (fun n c => n * base + (hexValue? c).getD 0) 0

/-- The decimal digits of an integer; a zero at the start stands alone. -/
def wholeDigits? : Reader (List Char)
  | '0' :: rest => some (['0'], rest)
  | text => digits? Char.isDigit text

/-! ## Numbers -/

/-- The integer, when it fits in 64 bits. -/
def inRange? (n : Int) : Option Item :=
  if -9223372036854775808 ≤ n ∧ n ≤ 9223372036854775807 then some (.integer n) else none

/-- An integer in a base that its mark tells. -/
def basedInteger? (base : Nat) (text : List Char) : Option (Item × List Char) := do
  let isDigit (c : Char) : Bool := (hexValue? c).any (· < base)
  let (digits, rest) ← digits? isDigit text
  some (← inRange? (valueIn base digits), rest)

/-- What is behind an exponent: `none` when there is none, and then `some none` when it is
broken. -/
def exponent? : List Char → Option (Option (List Char × List Char))
  | c :: rest =>
    if c = 'e' ∨ c = 'E' then
      let (minus, rest) : List Char × List Char :=
        match rest with
        | '+' :: rest => ([], rest)
        | '-' :: rest => (['-'], rest)
        | rest => ([], rest)
      some ((digits? Char.isDigit rest).map fun (digits, rest) => (minus ++ digits, rest))
    else none
  | [] => none

/-- The signed number of an exponent's digits. -/
def exponentValue : List Char → Int
  | '-' :: digits => -(valueIn 10 digits : Int)
  | digits => valueIn 10 digits

/-- A number with a fraction, an exponent or both behind its whole digits.  One that is too large
is refused, unless it is negative. -/
def float? (negative : Bool) (whole : List Char) (text : List Char) :
    Option (Item × List Char) := do
  let (fraction, rest) ←
    match text with
    | '.' :: rest => digits? Char.isDigit rest
    | rest => some ([], rest)
  let (exponent, rest) ←
    match exponent? rest with
    | none => some ([], rest)
    | some found => found
  if !negative ∧ Text.exceedsFloat (valueIn 10 (whole ++ fraction))
      (exponentValue exponent - fraction.length) then none
  else some (.float, rest)

/-- A number in decimal digits behind its sign. -/
def decimal? (negative : Bool) (text : List Char) : Option (Item × List Char) := do
  let (whole, rest) ← wholeDigits? text
  if rest.head? = some '.' ∨ (exponent? rest).isSome then float? negative whole rest
  else
    let n : Int := valueIn 10 whole
    some (← inRange? (if negative then -n else n), rest)

/-- What is behind a word. -/
def behindWord? : List Char → List Char → Option (List Char)
  | [], text => some text
  | _ :: _, [] => none
  | w :: word, c :: text => if w = c then behindWord? word text else none

/-- A number. -/
def number? (text : List Char) : Option (Item × List Char) :=
  match text with
  | '0' :: 'x' :: rest => basedInteger? 16 rest
  | '0' :: 'o' :: rest => basedInteger? 8 rest
  | '0' :: 'b' :: rest => basedInteger? 2 rest
  | _ =>
    let (negative, isSigned, rest) : Bool × Bool × List Char :=
      match text with
      | '-' :: rest => (true, true, rest)
      | '+' :: rest => (false, true, rest)
      | rest => (false, false, rest)
    match rest with
    | 'i' :: rest => if isSigned then (behindWord? ['n', 'f'] rest).map (.float, ·) else none
    | 'n' :: rest => if isSigned then (behindWord? ['a', 'n'] rest).map (.float, ·) else none
    | rest => decimal? negative rest

/-! ## Moments -/

/-- A number of exactly so many digits. -/
def fixed? (count : Nat) (text : List Char) : Option (Nat × List Char) :=
  let digits := text.take count
  if digits.length = count ∧ digits.all Char.isDigit then
    some (valueIn 10 digits, text.drop count)
  else none

/-- A number of two digits within bounds. -/
def within? (low high : Nat) (text : List Char) : Option (Nat × List Char) := do
  let (n, rest) ← fixed? 2 text
  if low ≤ n ∧ n ≤ high then some (n, rest) else none

/-- What is behind a mark. -/
def behindMark? (mark : Char) : List Char → Option (List Char)
  | c :: rest => if c = mark then some rest else none
  | [] => none

/-- The number of days in a month of a year. -/
def daysIn (year month : Nat) : Nat :=
  if month = 2 then
    if year % 4 = 0 ∧ (year % 100 ≠ 0 ∨ year % 400 = 0) then 29 else 28
  else if month = 4 ∨ month = 6 ∨ month = 9 ∨ month = 11 then 30
  else 31

/-- What is behind a time of day whose hour was read. -/
def behindHour? (text : List Char) : Option (List Char) := do
  let rest ← behindMark? ':' text
  let (_, rest) ← within? 0 59 rest
  let rest ← behindMark? ':' rest
  let (_, rest) ← within? 0 60 rest
  match rest with
  | '.' :: rest =>
    if (rest.head?).any Char.isDigit then some (rest.dropWhile Char.isDigit) else none
  | rest => some rest

/-- The text starts with an hour and a colon. -/
def startsTime (text : List Char) : Bool :=
  match within? 0 23 text with
  | some (_, ':' :: _) => true
  | _ => false

/-- What is behind an offset, when there is one. -/
def behindOffset? : List Char → Option (List Char)
  | c :: rest =>
    if c = 'Z' ∨ c = 'z' then some rest
    else if c = '+' ∨ c = '-' then do
      let (_, rest) ← within? 0 23 rest
      let rest ← behindMark? ':' rest
      let (_, rest) ← within? 0 59 rest
      some rest
    else some (c :: rest)
  | [] => some []

/-- What is behind a date whose year was read, with the time behind it. -/
def behindYear? (year : Nat) (text : List Char) : Option (List Char) := do
  let rest ← behindMark? '-' text
  let (month, rest) ← within? 1 12 rest
  let rest ← behindMark? '-' rest
  let (day, rest) ← within? 1 31 rest
  if day > daysIn year month then none
  else
    match rest with
    | c :: behind =>
      if (c = 'T' ∨ c = 't' ∨ c = ' ') ∧ startsTime behind then do
        behindOffset? (← behindHour? (behind.drop 2))
      else some (c :: behind)
    | [] => some []

/-- A number, a date or a time, which the characters behind the first digits tell apart. -/
def numberOrMoment? (text : List Char) : Option (Item × List Char) :=
  match fixed? 4 text with
  | some (year, '-' :: rest) => (behindYear? year ('-' :: rest)).map (.moment, ·)
  | _ =>
    if startsTime text then (behindHour? (text.drop 2)).map (.moment, ·) else number? text

end WallpaperRotation.Toml
