/-
# Sizes of Netpbm images

A Netpbm starts with the letter P and a digit for its kind.  The kinds but the last have a header of
numbers between blanks, with comments; the header of the last one has a line for each setting.
-/
import WallpaperRotation.Image.Field
import WallpaperRotation.Text.Decimal

namespace WallpaperRotation.Image.Netpbm

/-! ## Numbers -/

/-- The byte parts the numbers of a header. -/
def isBlank (byte : UInt8) : Bool :=
  (9 ≤ byte && byte ≤ 13) || byte = 32

/-- The byte ends a line, and a comment with it. -/
def endsLine (byte : UInt8) : Bool :=
  byte = 10 || byte = 13

/-- The next word of a header, behind the letters of it that were read, and what is behind the
blank that ends it.  A comment and the end of its line do not even part a word. -/
def word? (isComment : Bool) (letters : List Char) : Bytes → Option (List Char × Bytes)
  | [] => if letters = [] then none else some (letters, [])
  | byte :: rest =>
    if isComment ∨ byte = 35 then word? (!endsLine byte) letters rest
    else if isBlank byte then
      if letters = [] then word? false letters rest else some (letters, rest)
    else if byte ≥ 128 then none
    else word? false (letters ++ [Char.ofNat byte.toNat]) rest

/-- The number of 32 bits that a word stands for, with or without a plus sign. -/
def number? (word : List Char) : Option Nat :=
  let digits := match word with | '+' :: digits => digits | digits => digits
  let value := Text.decimalValue digits
  if digits ≠ [] ∧ digits.all Char.isDigit ∧ value < 4294967296 then some value else none

/-- The number that is the next word of a header. -/
def nextNumber? (bytes : Bytes) : Option (Nat × Bytes) := do
  let (word, rest) ← word? false [] bytes
  some (← number? word, rest)

/-! ## Headers of numbers -/

/-- The bytes of a value up to some greatest one. -/
def valueLength? (greatest : Nat) : Option Nat :=
  if greatest ≤ 255 then some 1 else if greatest ≤ 65535 then some 2 else none

/-- The size in a header of two numbers, for pixels of one bit. -/
def bitmapSize? (bytes : Bytes) : Option Size := do
  let (width, rest) ← nextNumber? bytes
  let (height, _) ← nextNumber? rest
  some ⟨width, height⟩

/-- The size in a header of three numbers, for pixels of so many values up to the third number. -/
def mapSize? (values : Nat) (bytes : Bytes) : Option Size := do
  let (width, rest) ← nextNumber? bytes
  let (height, rest) ← nextNumber? rest
  let (greatest, _) ← nextNumber? rest
  let size : Size := ⟨width, height⟩
  if size.fits (values * (← valueLength? greatest)) then some size else none

/-! ## Headers of settings -/

/-- The settings that were read. -/
structure Settings where
  width : Option Nat
  height : Option Nat
  depth : Option Nat
  greatest : Option Nat
  kind : Option (List Char)

/-- The text without the blanks around it. -/
def trim (text : List Char) : List Char :=
  let isSpace (c : Char) : Bool := isBlank (UInt8.ofNat c.toNat)
  ((text.dropWhile isSpace).reverse.dropWhile isSpace).reverse

/-- The number of a setting that was not given yet. -/
def once? (old : Option Nat) (text : List Char) : Option (Option Nat) :=
  match old with
  | some _ => none
  | none => (number? (trim text)).map some

/-- The settings with one more. -/
def Settings.with? (settings : Settings) (name text : List Char) : Option Settings :=
  match String.ofList name with
  | "WIDTH" => do return { settings with width := ← once? settings.width text }
  | "HEIGHT" => do return { settings with height := ← once? settings.height text }
  | "DEPTH" => do return { settings with depth := ← once? settings.depth text }
  | "MAXVAL" => do return { settings with greatest := ← once? settings.greatest text }
  | "TUPLTYPE" =>
    let kind := match settings.kind with
      | some old => old ++ ' ' :: trim text
      | none => trim text
    some { settings with kind := some kind }
  | _ => none

/-- The settings up to the line that ends the header, from at most so many lines. -/
def settings? : Nat → Settings → Bytes → Option Settings
  | 0, _, _ => none
  | _, _, [] => none
  | lines + 1, settings, bytes =>
    let line := (bytes.takeWhile (· ≠ 10)).map fun byte => Char.ofNat byte.toNat
    let rest := (bytes.dropWhile (· ≠ 10)).drop 1
    if line.head? = some '#' then settings? lines settings rest
    else if line.any fun c => c.toNat ≥ 128 then none
    else
      let name := line.takeWhile fun c => !isBlank (UInt8.ofNat c.toNat)
      if String.ofList name = "ENDHDR" then some settings
      else do settings? lines (← settings.with? name (line.drop name.length)) rest

/-- The bytes of a pixel of the kind that the settings name. -/
def pixelLength? (kind : Option String) (depth greatest : Nat) : Option Nat :=
  match kind with
  | none => if depth = 1 then some 1 else if depth = 3 then some 3 else none
  | some "BLACKANDWHITE" => if depth = 1 ∧ greatest = 1 then some 1 else none
  | some "GRAYSCALE" =>
    if depth = 1 ∨ (depth = 0 ∧ 255 < greatest) then valueLength? greatest else none
  | some "RGB" => if depth = 3 then (valueLength? greatest).map (3 * ·) else none
  | _ => none

/-- The size in a header of settings. -/
def settingsSize? (bytes : Bytes) : Option Size := do
  let rest ← behind? [10] bytes
  let settings ← settings? (rest.length + 1) ⟨none, none, none, none, none⟩ rest
  let size : Size := ⟨← settings.width, ← settings.height⟩
  let pixel ← pixelLength? (settings.kind.map String.ofList) (← settings.depth)
    (← settings.greatest)
  if size.fits pixel then some size else none

/-- The size of a Netpbm image. -/
def size? (bytes : Bytes) : Option Size := do
  let rest ← behind? (letters "P") bytes
  match rest with
  | [] => none
  | kind :: rest =>
    match Char.ofNat kind.toNat with
    | '1' | '4' => bitmapSize? rest
    | '2' | '5' => mapSize? 1 rest
    | '3' | '6' => mapSize? 3 rest
    | '7' => settingsSize? rest
    | _ => none

end WallpaperRotation.Image.Netpbm
