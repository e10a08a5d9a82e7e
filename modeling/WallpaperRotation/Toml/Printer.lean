/-
# Writing TOML documents

A document is written as one section after the other.  Each string takes the first form, of those
in a fixed order, that can hold it without escapes; one that no form can hold is escaped.
-/

namespace WallpaperRotation.Toml

/-! ## Forms of strings -/

/-- The character is a control character. -/
def isControl (c : Char) : Bool :=
  c.toNat < 0x20 || c.toNat = 0x7F

/-- The text holds so many of a character in a row. -/
def hasRun (c : Char) (count : Nat) : List Char → Bool
  | [] => count = 0
  | x :: rest => (x :: rest).take count = List.replicate count c || hasRun c count rest

/-- A form of a string. -/
inductive StringForm where
  | basic
  | literal
  | basicLines
  | literalLines
  /-- Between double quotes, with escapes. -/
  | escaped
  /-- Over several lines between double quotes, with escapes. -/
  | escapedLines
  deriving DecidableEq, Repr

/-- The form that a text takes. -/
def formOf (text : List Char) : StringForm :=
  let has (c : Char) : Bool := text.contains c
  let hasControl := text.any fun c => isControl c && c ≠ '\t' && c ≠ '\n'
  let hasBreak := has '\n'
  if !has '"' && !has '\\' && !hasBreak && !hasControl then .basic
  else if !has '\'' && !hasBreak && !hasControl then .literal
  else if !has '\\' && !hasControl && !hasRun '"' 3 text then .basicLines
  else if !hasControl && !hasRun '\'' 3 text then .literalLines
  else if hasBreak then .escapedLines
  else .escaped

/-- The upper case hexadecimal digit of a number below sixteen. -/
def hexDigit (n : Nat) : Char :=
  if n < 10 then Char.ofNat (48 + n) else Char.ofNat (55 + n)

/-- The form of a character between double quotes on one line. -/
def escapeChar (c : Char) : List Char :=
  if c = '"' then ['\\', '"']
  else if c = '\\' then ['\\', '\\']
  else if c = '\x08' then ['\\', 'b']
  else if c = '\t' then ['\\', 't']
  else if c = '\n' then ['\\', 'n']
  else if c = '\x0c' then ['\\', 'f']
  else if c = '\r' then ['\\', 'r']
  else if isControl c then
    ['\\', 'u', '0', '0', hexDigit (c.toNat / 16), hexDigit (c.toNat % 16)]
  else [c]

/-- The text between double quotes over several lines, so many quotes after the last other
character: line breaks and up to two quotes in a row stand for themselves. -/
def escapeLines : Nat → List Char → List Char
  | _, [] => []
  | quotes, c :: rest =>
    if c = '"' then
      if quotes < 2 then '"' :: escapeLines (quotes + 1) rest
      else '\\' :: '"' :: escapeLines 0 rest
    else if c = '\n' then '\n' :: escapeLines 0 rest
    else escapeChar c ++ escapeLines 0 rest

/-- A line break in front of a text over several lines that has one itself. -/
def leadingBreak (text : List Char) : List Char :=
  if text.contains '\n' then ['\n'] else []

/-- A string in its form. -/
def renderString (text : List Char) : List Char :=
  let three (c : Char) : List Char := [c, c, c]
  match formOf text with
  | .basic | .escaped => '"' :: text.flatMap escapeChar ++ ['"']
  | .literal => '\'' :: text ++ ['\'']
  | .basicLines | .escapedLines =>
    three '"' ++ leadingBreak text ++ escapeLines 0 text ++ three '"'
  | .literalLines => three '\'' ++ leadingBreak text ++ text ++ three '\''

/-! ## Documents -/

/-- A value to be written. -/
inductive Value where
  | string (text : String)
  | boolean (b : Bool)
  /-- Strings in an array. -/
  | strings (texts : List String)

/-- A value: an array of more than one string takes a line for each. -/
def Value.render : Value → List Char
  | .string text => renderString text.toList
  | .boolean b => (if b then "true" else "false").toList
  | .strings [] => ['[', ']']
  | .strings [text] => '[' :: renderString text.toList ++ [']']
  | .strings texts =>
    '[' :: '\n' ::
      (texts.flatMap fun text => "    ".toList ++ renderString text.toList ++ [',', '\n']) ++ [']']

/-- A header with the keys under it. -/
structure Section where
  name : String
  entries : List (String × Value)

/-- A section, line by line. -/
def Section.render (part : Section) : List Char :=
  '[' :: part.name.toList ++ [']', '\n'] ++
    part.entries.flatMap fun (key, value) => key.toList ++ " = ".toList ++ value.render ++ ['\n']

/-- The sections with an empty line between each two. -/
def renderSections : List Section → List Char
  | [] => []
  | [part] => part.render
  | part :: rest => part.render ++ '\n' :: renderSections rest

end WallpaperRotation.Toml
