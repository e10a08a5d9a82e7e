/-
# Sizes of Radiance images

A Radiance starts with lines of settings up to an empty one; the line behind that tells the size.
-/
import WallpaperRotation.Image.Field
import WallpaperRotation.Text.Blank
import WallpaperRotation.Text.Decimal

namespace WallpaperRotation.Image.Radiance

/-! ## Lines -/

/-- The first line, and what is behind it; there is none when there are no bytes. -/
def line? (bytes : Bytes) : Option (List Char × Bytes) :=
  if bytes = [] then none
  else
    some ((bytes.takeWhile (· ≠ 10)).map fun byte => Char.ofNat byte.toNat,
      (bytes.dropWhile (· ≠ 10)).drop 1)

/-- The words of a line. -/
def words : List Char → List (List Char)
  | [] => []
  | c :: rest =>
    if Text.isBlank c then [] :: words rest
    else
      match words rest with
      | [] => [[c]]
      | word :: others => (c :: word) :: others

/-- The words of a line that are not empty. -/
def fullWords (line : List Char) : List (List Char) :=
  (words line).filter (· ≠ [])

/-! ## Settings -/

/-- The text without a sign at its start. -/
def unsigned : List Char → List Char
  | '+' :: rest => rest
  | '-' :: rest => rest
  | text => text

/-- The text is a number with an optional sign, fraction and exponent, or one of the words for what
is no finite number. -/
def isNumber (text : List Char) : Bool :=
  let body := unsigned text
  let whole := body.takeWhile Char.isDigit
  let rest := body.dropWhile Char.isDigit
  let (fraction, rest) := match rest with
    | '.' :: rest => (rest.takeWhile Char.isDigit, rest.dropWhile Char.isDigit)
    | rest => ([], rest)
  let exponentHolds := match rest with
    | [] => true
    | c :: rest => (c = 'e' || c = 'E') && unsigned rest ≠ [] && (unsigned rest).all Char.isDigit
  ["inf", "infinity", "nan"].contains (String.ofList (body.map Char.toLower)) ||
    (whole ++ fraction ≠ [] && exponentHolds)

/-- A line of the header holds: the pixels have the usual format, and the settings that are numbers
are so. -/
def settingHolds (line : List Char) : Bool :=
  let value := Text.trim ((line.dropWhile (· ≠ '=')).drop 1)
  if !line.contains '=' then true
  else
    match String.ofList (Text.trim (line.takeWhile (· ≠ '='))) with
    | "FORMAT" => String.ofList value = "32-bit_rle_rgbe"
    | "EXPOSURE" | "PIXASPECT" => isNumber value
    | "COLORCORR" => (fullWords value).length = 3 && (fullWords value).all isNumber
    | _ => true

/-- What is behind the empty line that ends the header, which has at most so many lines. -/
def behindHeader? : Nat → Bytes → Option Bytes
  | 0, _ => none
  | lines + 1, bytes => do
    let (line, rest) ← line? bytes
    if line = [] then some rest
    else if line.head? = some '#' ∨ settingHolds line then behindHeader? lines rest
    else none

/-! ## The size -/

/-- The number of 32 bits that a word stands for, with or without a plus sign. -/
def number? (word : List Char) : Option Nat :=
  let digits := match word with | '+' :: digits => digits | digits => digits
  let value := Text.decimalValue digits
  if digits ≠ [] ∧ digits.all Char.isDigit ∧ value < 4294967296 then some value else none

/-- The size of a Radiance image, whose rows go down and to the right. -/
def size? (bytes : Bytes) : Option Size := do
  let rest ← behind? (letters "#?RADIANCE") bytes
  let (_, rest) ← line? rest
  let rest ← behindHeader? (rest.length + 1) rest
  let (line, _) ← line? rest
  match fullWords line with
  | [down, height, right, width] =>
    let size : Size := ⟨← number? width, ← number? height⟩
    if down = ['-', 'Y'] ∧ right = ['+', 'X'] ∧ size.fits 3 then some size else none
  | _ => none

end WallpaperRotation.Image.Radiance
