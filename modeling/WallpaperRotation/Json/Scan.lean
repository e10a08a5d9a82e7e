/-
# The pieces of a JSON text

Blanks, words, strings, numbers and whole values that nobody asked for.  A text is read from its
start, so the first fault in it is the one that is told.
-/
import WallpaperRotation.Text.Decimal

namespace WallpaperRotation.Json

/-! ## Faults -/

/-- What is wrong with a JSON text. -/
inductive Fault where
  /-- The text ended too soon. -/
  | cutOff
  /-- The text is no JSON. -/
  | malformed
  /-- The text is JSON of another shape than the one that was asked for. -/
  | unfit
  deriving DecidableEq, Repr

/-- Reads a value off the front of a text, together with what is left. -/
abbrev Reader (α : Type) := List Char → Except Fault (α × List Char)

/-! ## Blanks and words -/

/-- The character may stand between the pieces of a text. -/
def isSpace (c : Char) : Bool :=
  c = ' ' || c = '\n' || c = '\t' || c = '\r'

/-- The text from its first piece on. -/
def skipSpace (text : List Char) : List Char :=
  text.dropWhile isSpace

/-- What is behind a word. -/
def behindWord : List Char → List Char → Except Fault (List Char)
  | [], text => .ok text
  | _ :: _, [] => .error .cutOff
  | w :: word, c :: text => if w = c then behindWord word text else .error .malformed

/-! ## Strings -/

/-- The value of a hexadecimal digit. -/
def hexValue? (c : Char) : Option Nat :=
  if '0' ≤ c ∧ c ≤ '9' then some (c.toNat - '0'.toNat)
  else if 'a' ≤ c ∧ c ≤ 'f' then some (c.toNat - 'a'.toNat + 10)
  else if 'A' ≤ c ∧ c ≤ 'F' then some (c.toNat - 'A'.toNat + 10)
  else none

/-- The number that four hexadecimal digits make up. -/
def hexCode? (a b c d : Char) : Option Nat := do
  some ((((← hexValue? a) * 16 + (← hexValue? b)) * 16 + (← hexValue? c)) * 16 + (← hexValue? d))

/-- The number is the first half of a character beyond the basic plane. -/
def isHighHalf (code : Nat) : Bool := 0xD800 ≤ code && code ≤ 0xDBFF

/-- The number is the second half of a character beyond the basic plane. -/
def isLowHalf (code : Nat) : Bool := 0xDC00 ≤ code && code ≤ 0xDFFF

/-- The character that a letter stands for behind a backslash. -/
def escaped? : Char → Option Char
  | '"' => some '"'
  | '\\' => some '\\'
  | '/' => some '/'
  | 'b' => some '\x08'
  | 'f' => some '\x0c'
  | 'n' => some '\n'
  | 'r' => some '\r'
  | 't' => some '\t'
  | _ => none

/-- The fault of an escape with fewer than four characters for its digits: it takes four bytes to
see that they are no digits. -/
def shortCodeFault (text : List Char) : Fault :=
  if text.foldl (fun size c => size + c.utf8Size) 0 < 4 then .cutOff else .malformed

/-- The fault of a first half that no second half follows. -/
def lonelyHalfFault : List Char → Fault
  | [] => .cutOff
  | ['\\'] => .cutOff
  | '\\' :: 'u' :: rest => if rest.length < 4 then shortCodeFault rest else .malformed
  | _ => .malformed

/-- Puts a character before the text that was read. -/
def before (c : Char) (read : Except Fault (List Char × List Char)) :
    Except Fault (List Char × List Char) :=
  read.map fun (text, rest) => (c :: text, rest)

/-- The characters of a string behind its opening quote.  Where the string is asked for, `strict`,
the halves of a character have to come in pairs. -/
def stringBody (strict : Bool) : List Char → Except Fault (List Char × List Char)
  | [] => .error .cutOff
  | '"' :: rest => .ok ([], rest)
  | ['\\'] => .error .cutOff
  | '\\' :: 'u' :: a :: b :: c :: d :: rest =>
    match hexCode? a b c d with
    | none => .error .malformed
    | some code =>
      if !strict then before ' ' (stringBody strict rest)
      else if isLowHalf code then .error .malformed
      else if isHighHalf code then
        match rest with
        | '\\' :: 'u' :: e :: f :: g :: h :: rest =>
          match hexCode? e f g h with
          | none => .error .malformed
          | some low =>
            if isLowHalf low then
              before (Char.ofNat (0x10000 + (code - 0xD800) * 0x400 + (low - 0xDC00)))
                (stringBody strict rest)
            else .error .malformed
        | rest => .error (lonelyHalfFault rest)
      else before (Char.ofNat code) (stringBody strict rest)
  | '\\' :: 'u' :: rest => .error (shortCodeFault rest)
  | '\\' :: c :: rest =>
    match escaped? c with
    | some x => before x (stringBody strict rest)
    | none => .error .malformed
  | c :: rest => if c.toNat < 0x20 then .error .malformed else before c (stringBody strict rest)

/-! ## Numbers -/

/-- The fault of a missing digit: the text may have ended there. -/
def digitFault (atEnd : Fault) : List Char → Fault
  | [] => atEnd
  | _ => .malformed

/-- A number as written, without what it is worth where it is no integer. -/
structure Numeral where
  negative : Bool
  whole : List Char
  fraction : List Char
  exponent : Int
  /-- The number has a fraction or an exponent. -/
  scaled : Bool

/-- An exponent, when there is one. -/
def exponent? (atEnd : Fault) : List Char → Except Fault (Option Int × List Char)
  | c :: rest =>
    if c = 'e' ∨ c = 'E' then
      let (negative, rest) : Bool × List Char :=
        match rest with
        | '+' :: rest => (false, rest)
        | '-' :: rest => (true, rest)
        | rest => (false, rest)
      let digits := rest.takeWhile Char.isDigit
      let rest := rest.dropWhile Char.isDigit
      if digits = [] then .error (digitFault atEnd rest)
      else
        let value : Int := Text.decimalValue digits
        .ok (some (if negative then -value else value), rest)
    else .ok (none, c :: rest)
  | [] => .ok (none, [])

/-- A number; `atEnd` is the fault of a text that ends where a digit has to follow. -/
def numeral (atEnd : Fault) (text : List Char) : Except Fault (Numeral × List Char) := do
  let (negative, text) : Bool × List Char :=
    match text with
    | '-' :: rest => (true, rest)
    | text => (false, text)
  let whole := text.takeWhile Char.isDigit
  let rest := text.dropWhile Char.isDigit
  if whole = [] then throw (digitFault atEnd rest)
  if whole.head? = some '0' ∧ whole.length > 1 then throw .malformed
  let (fraction, rest) : List Char × List Char ←
    match rest with
    | '.' :: rest =>
      let fraction := rest.takeWhile Char.isDigit
      let rest := rest.dropWhile Char.isDigit
      if fraction = [] then throw (digitFault atEnd rest) else pure (fraction, rest)
    | rest => pure ([], rest)
  let (exponent, rest) ← exponent? atEnd rest
  return (⟨negative, whole, fraction, exponent.getD 0, fraction ≠ [] || exponent.isSome⟩, rest)

/-- The least number that does not fit in 64 bits. -/
def numberLimit : Nat := 18446744073709551616

/-- The number as a natural one, when it is written as one and fits in 64 bits. -/
def Numeral.natural? (n : Numeral) : Option Nat :=
  if n.negative || n.scaled || Text.decimalValue n.whole ≥ numberLimit then none
  else some (Text.decimalValue n.whole)

/-- Puts digits behind a number as long as it fits in 64 bits; comes with the digits left over. -/
def takeDigits (n : Nat) : List Char → Nat × List Char
  | [] => (n, [])
  | c :: rest =>
    let longer := n * 10 + Text.decimalValue [c]
    if longer < numberLimit then takeDigits longer rest else (n, c :: rest)

/-- The digits that count and the power of ten by which they are scaled.  Digits that do not fit
count as zeros before the point, and not at all behind it. -/
def Numeral.parts (n : Numeral) : Nat × Int :=
  let (whole, surplus) := takeDigits 0 n.whole
  let (significand, ignored) := takeDigits whole n.fraction
  (significand, n.exponent + surplus.length - (n.fraction.length - ignored.length : Nat))

/-- A number that was asked for: the natural number that it is, if it is one. -/
def natural? (text : List Char) : Except Fault (Option Nat × List Char) := do
  let (n, rest) ← numeral .cutOff text
  let (significand, exponent) := n.parts
  if Text.productExceedsFloat significand exponent then throw .malformed
  return (n.natural?, rest)

/-! ## Values that nobody asked for -/

/-- The character starts a number. -/
def startsNumber (c : Char) : Bool := c = '-' || c.isDigit

/-- What is behind a value that holds no others. -/
def behindScalar (strict : Bool) : List Char → Except Fault (List Char)
  | [] => .error .cutOff
  | 'n' :: rest => behindWord ['u', 'l', 'l'] rest
  | 't' :: rest => behindWord ['r', 'u', 'e'] rest
  | 'f' :: rest => behindWord ['a', 'l', 's', 'e'] rest
  | '"' :: rest => (stringBody strict rest).map Prod.snd
  | c :: rest =>
    if startsNumber c then
      if strict then (natural? (c :: rest)).map Prod.snd
      else (numeral .malformed (c :: rest)).map Prod.snd
    else .error .malformed

/-- The fault of a value of another shape than the one that was asked for.  A scalar is read to
its end first. -/
def mismatch : List Char → Fault
  | '[' :: _ => .unfit
  | '{' :: _ => .unfit
  | text =>
    match behindScalar true text with
    | .ok _ => .unfit
    | .error fault => fault

/-- What is looked for next inside a value. -/
inductive Awaits where
  | value
  /-- A comma or the end of the innermost list or object. -/
  | sequel
  /-- The name of a member. -/
  | name

/-- What encloses a place in a value. -/
inductive Bracket where
  | list
  | object
  deriving DecidableEq

/-- What is behind a value of any depth, in at most so many steps; each step reads a character, so
the length of the text is enough. -/
def behindValue : Nat → Awaits → List Bracket → List Char → Except Fault (List Char)
  | 0, _, _, _ => .error .malformed
  | fuel + 1, .value, stack, text =>
    match skipSpace text with
    | '[' :: rest =>
      match skipSpace rest with
      | ']' :: rest => behindValue fuel .sequel stack rest
      | rest => behindValue fuel .value (.list :: stack) rest
    | '{' :: rest =>
      match skipSpace rest with
      | '}' :: rest => behindValue fuel .sequel stack rest
      | rest => behindValue fuel .name (.object :: stack) rest
    | text => do behindValue fuel .sequel stack (← behindScalar false text)
  | _ + 1, .sequel, [], text => .ok text
  | fuel + 1, .sequel, bracket :: stack, text =>
    match skipSpace text with
    | [] => .error .cutOff
    | ',' :: rest =>
      behindValue fuel (if bracket = .object then .name else .value) (bracket :: stack) rest
    | ']' :: rest =>
      if bracket = .list then behindValue fuel .sequel stack rest else .error .malformed
    | '}' :: rest =>
      if bracket = .object then behindValue fuel .sequel stack rest else .error .malformed
    | _ => .error .malformed
  | fuel + 1, .name, stack, text =>
    match skipSpace text with
    | [] => .error .cutOff
    | '"' :: rest => do
      let (_, rest) ← stringBody false rest
      match skipSpace rest with
      | [] => .error .cutOff
      | ':' :: rest => behindValue fuel .value stack rest
      | _ => .error .malformed
    | _ => .error .malformed

/-- What is behind a value that nobody asked for. -/
def skipValue (text : List Char) : Except Fault (List Char) :=
  behindValue (text.length + 2) .value [] text

end WallpaperRotation.Json
