/-
# Strings and keys of TOML documents

The four kinds of strings, and keys of one or more parts.
-/

namespace WallpaperRotation.Toml

/-- Reads something off the front of a text, together with what is left. -/
abbrev Reader (α : Type) := List Char → Option (α × List Char)

/-! ## Characters -/

/-- A blank within a line. -/
def isSpace (c : Char) : Bool := c = ' ' || c = '\t'

/-- The text from the next character that is no blank. -/
def skipSpace (text : List Char) : List Char := text.dropWhile isSpace

/-- The character may stand in a comment or a string: no control character but a tab. -/
def isPlain (c : Char) : Bool :=
  c = '\t' || (0x20 ≤ c.toNat && c.toNat ≠ 0x7F)

/-- What is behind the end of a line. -/
def behindBreak? : List Char → Option (List Char)
  | '\n' :: rest => some rest
  | '\r' :: '\n' :: rest => some rest
  | _ => none

/-- The value of a hexadecimal digit. -/
def hexValue? (c : Char) : Option Nat :=
  if '0' ≤ c ∧ c ≤ '9' then some (c.toNat - '0'.toNat)
  else if 'a' ≤ c ∧ c ≤ 'f' then some (c.toNat - 'a'.toNat + 10)
  else if 'A' ≤ c ∧ c ≤ 'F' then some (c.toNat - 'A'.toNat + 10)
  else none

/-- The character whose code point hexadecimal digits make up. -/
def scalar? (digits : List Char) : Option Char := do
  let code ← digits.foldlM (fun n c => (hexValue? c).map (n * 16 + ·)) 0
  if code < 0xD800 ∨ (0xE000 ≤ code ∧ code < 0x110000) then some (Char.ofNat code) else none

/-- The character that a letter stands for behind a backslash. -/
def escaped? : Char → Option Char
  | 'b' => some '\x08'
  | 't' => some '\t'
  | 'n' => some '\n'
  | 'f' => some '\x0c'
  | 'r' => some '\r'
  | '"' => some '"'
  | '\\' => some '\\'
  | _ => none

/-! ## Strings -/

/-- Puts a character before a text that was read. -/
def before (c : Char) (read : Option (List Char × List Char)) : Option (List Char × List Char) :=
  read.map fun (text, rest) => (c :: text, rest)

/-- Whether a line of a string is being folded into the one before it. -/
inductive Fold where
  | off
  /-- Behind the backslash: blanks and then a line break have to follow. -/
  | line
  /-- Behind that line break: further blanks and breaks are dropped. -/
  | blanks
  deriving DecidableEq

/-- The characters of a string between double quotes, behind the first one; over several lines it
ends with three quotes. -/
def basicBody (lines : Bool) : Fold → List Char → Option (List Char × List Char)
  | _, [] => none
  | .line, '\r' :: '\n' :: rest => basicBody lines .blanks rest
  | .line, c :: rest =>
    if c = '\n' then basicBody lines .blanks rest
    else if isSpace c then basicBody lines .line rest
    else none
  | .blanks, ' ' :: rest => basicBody lines .blanks rest
  | .blanks, '\t' :: rest => basicBody lines .blanks rest
  | .blanks, '\n' :: rest => basicBody lines .blanks rest
  | .blanks, '\r' :: '\n' :: rest => basicBody lines .blanks rest
  | _, '"' :: rest =>
    if !lines then some ([], rest)
    else
      match rest with
      | '"' :: '"' :: '"' :: '"' :: rest => some (['"', '"'], rest)
      | '"' :: '"' :: '"' :: rest => some (['"'], rest)
      | '"' :: '"' :: rest => some ([], rest)
      | rest => before '"' (basicBody lines .off rest)
  | _, '\\' :: 'u' :: a :: b :: c :: d :: rest =>
    (scalar? [a, b, c, d]).bind fun x => before x (basicBody lines .off rest)
  | _, '\\' :: 'U' :: a :: b :: c :: d :: e :: f :: g :: h :: rest =>
    (scalar? [a, b, c, d, e, f, g, h]).bind fun x => before x (basicBody lines .off rest)
  | _, '\\' :: c :: rest =>
    match escaped? c with
    | some x => before x (basicBody lines .off rest)
    | none =>
      if lines ∧ c = '\n' then basicBody lines .blanks rest
      else if lines ∧ (isSpace c ∨ (c = '\r' ∧ rest.head? = some '\n')) then
        basicBody lines .line rest
      else none
  | _, '\r' :: '\n' :: rest => if lines then before '\n' (basicBody lines .off rest) else none
  | _, c :: rest =>
    if (isPlain c ∧ c ≠ '\\') ∨ (lines ∧ c = '\n') then before c (basicBody lines .off rest)
    else none

/-- The characters of a string between single quotes, behind the first one; over several lines it
ends with three quotes. -/
def literalBody (lines : Bool) : List Char → Option (List Char × List Char)
  | [] => none
  | '\'' :: rest =>
    if !lines then some ([], rest)
    else
      match rest with
      | '\'' :: '\'' :: '\'' :: '\'' :: rest => some (['\'', '\''], rest)
      | '\'' :: '\'' :: '\'' :: rest => some (['\''], rest)
      | '\'' :: '\'' :: rest => some ([], rest)
      | rest => before '\'' (literalBody lines rest)
  | '\r' :: '\n' :: rest => if lines then before '\n' (literalBody lines rest) else none
  | c :: rest =>
    if isPlain c ∨ (lines ∧ c = '\n') then before c (literalBody lines rest) else none

/-- The text without a line break at its start. -/
def dropBreak (text : List Char) : List Char :=
  (behindBreak? text).getD text

/-- A string of any kind. -/
def string? : Reader String := fun text =>
  (match text with
    | '"' :: '"' :: '"' :: rest => basicBody true .off (dropBreak rest)
    | '"' :: rest => basicBody false .off rest
    | '\'' :: '\'' :: '\'' :: rest => literalBody true (dropBreak rest)
    | '\'' :: rest => literalBody false rest
    | _ => none).map fun (chars, rest) => (String.ofList chars, rest)

/-! ## Keys -/

/-- The character may stand in a key without quotes. -/
def isBare (c : Char) : Bool :=
  c.isAlphanum || c = '_' || c = '-'

/-- One part of a key. -/
def keyPart? : Reader String := fun text =>
  match text with
  | '"' :: rest => (basicBody false .off rest).map fun (chars, rest) => (String.ofList chars, rest)
  | '\'' :: rest => (literalBody false rest).map fun (chars, rest) => (String.ofList chars, rest)
  | text =>
    let part := text.takeWhile isBare
    if part = [] then none else some (String.ofList part, text.dropWhile isBare)

/-- A key of at most so many parts, with blanks around each. -/
def key? : Nat → Reader (List String)
  | 0, _ => none
  | parts + 1, text => do
    let (part, rest) ← keyPart? (skipSpace text)
    match skipSpace rest with
    | '.' :: rest => do
      let (others, rest) ← key? parts rest
      some (part :: others, rest)
    | rest => some ([part], rest)

/-- Keys have fewer parts than this, and values fewer levels. -/
def depthLimit : Nat := 80

end WallpaperRotation.Toml
