/-
# Printing

What the printing commands of scripts write.  A text is written with its escapes resolved.  A
format is a text with marks, and each mark is written as the argument that it stands for.
-/

namespace WallpaperRotation.Script

/-! ## Escapes -/

/-- The bytes of a text. -/
def bytesOf (text : List Char) : List UInt8 :=
  (String.ofList text).toUTF8.toList

/-- The character is an octal digit. -/
def isOctal (c : Char) : Bool := '0' ≤ c && c ≤ '7'

/-- The byte of octal digits. -/
def octalByte (digits : List Char) : UInt8 :=
  UInt8.ofNat (digits.foldl (fun n c => n * 8 + (c.toNat - '0'.toNat)) 0)

/-- The byte that a letter stands for behind a backslash. -/
def escapedByte? : Char → Option UInt8
  | 'a' => some 7
  | 'b' => some 8
  | 't' => some 9
  | 'n' => some 10
  | 'v' => some 11
  | 'f' => some 12
  | 'r' => some 13
  | 'e' => some 27
  | '\\' => some 92
  | _ => none

/-- The text without the zero in front of its octal digits, which is not one of them where
`marked`. -/
def withoutZero (marked : Bool) : List Char → List Char
  | '0' :: rest => if marked && rest.head?.any isOctal then rest else '0' :: rest
  | text => text

/-- Without the zero a text is not longer. -/
theorem length_withoutZero (marked : Bool) (text : List Char) :
    (withoutZero marked text).length ≤ text.length := by
  unfold withoutZero
  split
  · split
    · simp only [List.length_cons]
      omega
    · exact Nat.le_refl _
  · exact Nat.le_refl _

/-- The byte of at most three octal digits at the start of a text, and what is left. -/
def octalEscape? (marked : Bool) (text : List Char) : Option (UInt8 × List Char) :=
  let body := withoutZero marked text
  let digits := (body.takeWhile isOctal).take 3
  if digits = [] then none else some (octalByte digits, body.drop digits.length)

/-- What an octal escape leaves is no longer than the text. -/
theorem length_of_octalEscape? {marked : Bool} {text rest : List Char} {byte : UInt8}
    (h : octalEscape? marked text = some (byte, rest)) : rest.length ≤ text.length := by
  unfold octalEscape? at h
  have := length_withoutZero marked text
  simp only [Option.ite_none_left_eq_some, Option.some.injEq, Prod.mk.injEq] at h
  rw [← h.2.2, List.length_drop]
  omega

/-- Bytes that are written, and whether that is the end of all that the command writes. -/
structure Written where
  bytes : List UInt8
  isEnd : Bool

/-- What is written with bytes in front. -/
def Written.behind (written : Written) (bytes : List UInt8) : Written :=
  { written with bytes := bytes ++ written.bytes }

/-- A text with its escapes resolved.  Where `marked`, there is one more escape, which is the end of
all that is written. -/
def resolve (marked : Bool) : List Char → Written
  | [] => ⟨[], false⟩
  | '\\' :: rest =>
    match _h : octalEscape? marked rest with
    | some (byte, rest) => (resolve marked rest).behind [byte]
    | none =>
      match rest with
      | [] => ⟨[92], false⟩
      | c :: rest =>
        if marked ∧ c = 'c' then ⟨[], true⟩
        else
          match escapedByte? c with
          | some byte => (resolve marked rest).behind [byte]
          | none => (resolve marked rest).behind (92 :: bytesOf [c])
  | c :: rest => (resolve marked rest).behind (bytesOf [c])
termination_by text => text.length
decreasing_by
  · have := length_of_octalEscape? _h
    simp only [List.length_cons]
    omega
  all_goals simp only [List.length_cons]; omega

/-- What arguments write that are put behind each other, with a line end where `isLine`. -/
def echo (isLine : Bool) : List String → List UInt8
  | [] => if isLine then [10] else []
  | text :: rest =>
    let written := resolve true text.toList
    if written.isEnd then written.bytes
    else if rest = [] then written.bytes ++ if isLine then [10] else []
    else written.bytes ++ 32 :: echo isLine rest

/-! ## Numbers -/

/-- What is wrong with an argument that has to be a number. -/
inductive NumberFault where
  | noNumber
  | notWhole
  | tooLarge
  deriving DecidableEq, Repr

/-- The wording of a fault. -/
def NumberFault.text : NumberFault → String
  | .noNumber => "expected numeric value"
  | .notWhole => "not completely converted"
  | .tooLarge => "Numerical result out of range"

/-- The value of a digit. -/
def digitValue (c : Char) : Nat :=
  if c.isDigit then c.toNat - '0'.toNat
  else if 'a' ≤ c ∧ c ≤ 'z' then c.toNat - 'a'.toNat + 10
  else if 'A' ≤ c ∧ c ≤ 'Z' then c.toNat - 'A'.toNat + 10
  else 36

/-- The number of the digits at the start of a text, and what is left. -/
def inBase (base : Nat) (text : List Char) : Nat × List Char :=
  let digits := text.takeWhile fun c => digitValue c < base
  (digits.foldl (fun n c => n * base + digitValue c) 0, text.drop digits.length)

/-- The number at the start of a text, which is hexadecimal behind `0x` and octal behind `0`. -/
def magnitude? : List Char → Option (Nat × List Char)
  | '0' :: x :: c :: rest =>
    if (x = 'x' ∨ x = 'X') ∧ digitValue c < 16 then some (inBase 16 (c :: rest))
    else some (inBase 8 ('0' :: x :: c :: rest))
  | '0' :: rest => some (inBase 8 ('0' :: rest))
  | c :: rest => if c.isDigit then some (inBase 10 (c :: rest)) else none
  | [] => none

/-- The character is a blank in front of a number. -/
def isSpace (c : Char) : Bool := c = ' ' || ('\t' ≤ c && c ≤ '\r')

/-- The sign at the start of a text, true for minus, and what is left. -/
def signed : List Char → Bool × List Char
  | '-' :: rest => (true, rest)
  | '+' :: rest => (false, rest)
  | rest => (false, rest)

/-- The least and the greatest number, where numbers have a sign. -/
def signedBound : Nat := 9223372036854775808

/-- The numbers without a sign are below this. -/
def unsignedBound : Nat := 18446744073709551616

/-- The number with a sign in the range of numbers, and whether it had to be changed for that. -/
def inRange (isSigned isNegative : Bool) (magnitude : Nat) : Int × Bool :=
  if isSigned then
    if isNegative then
      if magnitude ≤ signedBound then (-(magnitude : Int), false) else (-(signedBound : Int), true)
    else if magnitude < signedBound then ((magnitude : Int), false)
    else ((signedBound : Int) - 1, true)
  else if magnitude < unsignedBound then
    ((if isNegative then -(magnitude : Int) else magnitude) % (unsignedBound : Int), false)
  else ((unsignedBound : Int) - 1, true)

/-- The number that an argument is, and what is wrong with it.  Behind a quote it is the first
byte. -/
def argumentNumber (isSigned : Bool) (argument : String) : Int × Option NumberFault :=
  match argument.toList with
  | '\'' :: rest | '"' :: rest => (((bytesOf rest).head?.getD 0).toNat, none)
  | text =>
    let (isNegative, body) := signed (text.dropWhile isSpace)
    match magnitude? body with
    | none => (0, if text = [] then none else some .noNumber)
    | some (magnitude, rest) =>
      let (value, isChanged) := inRange isSigned isNegative magnitude
      (value, if rest ≠ [] then some .notWhole else if isChanged then some .tooLarge else none)

/-! ## Marks -/

/-- A length in a mark. -/
inductive Extent where
  | given (length : Nat)
  /-- It is the next argument. -/
  | argument
  deriving DecidableEq, Repr

/-- A mark of a format. -/
structure Mark where
  flags : List Char
  width : Extent
  precision : Option Extent
  letter : Char
  /-- The characters of the mark. -/
  text : List Char
  deriving DecidableEq, Repr

/-- The character is a flag of marks. -/
def isFlag (c : Char) : Bool := ['#', '-', '+', ' ', '0'].contains c

/-- The length at the start of a text, and what is left. -/
def extent : List Char → Extent × List Char
  | '*' :: rest => (.argument, rest)
  | text =>
    let (length, rest) := inBase 10 text
    (.given length, rest)

/-- A length leaves no more than the text. -/
theorem length_extent (text : List Char) : (extent text).2.length ≤ text.length := by
  unfold extent
  split
  · simp only [List.length_cons]
    omega
  · simp only [inBase, List.length_drop]
    omega

/-- The length behind a point at the start of a text, if there is one, and what is left. -/
def precisionOf : List Char → Option Extent × List Char
  | '.' :: rest => (some (extent rest).1, (extent rest).2)
  | text => (none, text)

/-- A precision leaves no more than the text. -/
theorem length_precisionOf (text : List Char) : (precisionOf text).2.length ≤ text.length := by
  unfold precisionOf
  split
  · rename_i rest
    have := length_extent rest
    simp only [List.length_cons]
    omega
  · exact Nat.le_refl _

/-- The mark behind a percent sign, and what is left; `none` when the letter is missing. -/
def mark? (text : List Char) : Option (Mark × List Char) :=
  let flags := text.takeWhile isFlag
  let (width, behindWidth) := extent (text.drop flags.length)
  let (precision, rest) := precisionOf behindWidth
  match rest with
  | [] => none
  | letter :: rest =>
    some (⟨flags, width, precision, letter, text.take (text.length - rest.length)⟩, rest)

/-- A mark has a character at least. -/
theorem length_of_mark? {text rest : List Char} {mark : Mark} (h : mark? text = some (mark, rest)) :
    rest.length < text.length := by
  have first := length_extent (text.drop (text.takeWhile isFlag).length)
  have second := length_precisionOf (extent (text.drop (text.takeWhile isFlag).length)).2
  rw [List.length_drop] at first
  simp only [mark?] at h
  split at h
  · cases h
  · rename_i letter after hafter
    simp only [Option.some.injEq, Prod.mk.injEq] at h
    rw [hafter, List.length_cons] at second
    rw [← h.2]
    omega

/-! ## Arguments of marks -/

/-- How writing a format goes on. -/
inductive Progress where
  | goesOn
  | isOver
  | failed
  deriving DecidableEq, Repr

/-- A format that is being written: the arguments that are left, the bytes so far, and what was said
about arguments. -/
structure Printout where
  arguments : List String
  bytes : List UInt8
  complaints : List String
  progress : Progress

namespace Printout

/-- The printout with more bytes. -/
def write (out : Printout) (bytes : List UInt8) : Printout :=
  { out with bytes := out.bytes ++ bytes }

/-- The printout that ends with a complaint. -/
def fail (out : Printout) (complaint : String) : Printout :=
  { out with complaints := out.complaints ++ [complaint], progress := .failed }

/-- The next argument, which is empty when none is left. -/
def next (out : Printout) : String × Printout :=
  (out.arguments.head?.getD "", { out with arguments := out.arguments.tail })

/-- The next argument as a number, which is zero when none is left. -/
def nextNumber (out : Printout) (isSigned : Bool) : Int × Printout :=
  let (argument, out) := out.next
  let (value, fault) := argumentNumber isSigned argument
  let complaints := fault.toList.map fun fault => argument ++ ": " ++ fault.text
  (value, { out with complaints := out.complaints ++ complaints })

/-- The length that a mark gives. -/
def length (out : Printout) : Extent → Int × Printout
  | .given length => (length, out)
  | .argument => out.nextNumber true

end Printout

/-- Bytes in a field of a width: they stand at its left or at its right. -/
def padded (isLeft : Bool) (width : Nat) (bytes : List UInt8) : List UInt8 :=
  let blanks := List.replicate (width - bytes.length) (32 : UInt8)
  if isLeft then bytes ++ blanks else blanks ++ bytes

/-- The digits of a number as a mark shows them. -/
def markDigits (letter : Char) (value : Nat) : List Char :=
  match letter with
  | 'o' => Nat.toDigits 8 value
  | 'x' => Nat.toDigits 16 value
  | 'X' => (Nat.toDigits 16 value).map Char.toUpper
  | _ => Nat.toDigits 10 value

/-- A number as a mark shows it, in a field of a width and with a least count of digits. -/
def shownNumber (mark : Mark) (isLeft : Bool) (width : Nat) (precision : Option Nat) (value : Int) :
    List UInt8 :=
  let digits :=
    if value = 0 ∧ precision = some 0 then [] else markDigits mark.letter value.natAbs
  let digits := List.replicate (precision.getD 1 - digits.length) '0' ++ digits
  let digits :=
    if mark.letter = 'o' ∧ mark.flags.contains '#' ∧ digits.head? ≠ some '0' then '0' :: digits
    else digits
  let lead :=
    if mark.letter = 'd' ∨ mark.letter = 'i' then
      if value < 0 then ['-']
      else if mark.flags.contains '+' then ['+']
      else if mark.flags.contains ' ' then [' ']
      else []
    else if (mark.letter = 'x' ∨ mark.letter = 'X') ∧ mark.flags.contains '#' ∧ value ≠ 0 then
      ['0', mark.letter]
    else []
  let fill := mark.flags.contains '0' && !isLeft && precision.isNone
  let zeros := if fill then List.replicate (width - (lead.length + digits.length)) '0' else []
  padded isLeft width (bytesOf (lead ++ zeros ++ digits))

/-- Writes the argument of a mark. -/
def Printout.put (out : Printout) (mark : Mark) : Printout :=
  let (width, out) := out.length mark.width
  let (precision, out) : Option Int × Printout :=
    match mark.precision with
    | none => (none, out)
    | some extent => (some (out.length extent).1, (out.length extent).2)
  let isLeft := mark.flags.contains '-' || width < 0
  let width := width.natAbs
  let precision := precision.bind fun count => if count < 0 then none else some count.toNat
  let cut (bytes : List UInt8) : List UInt8 :=
    match precision with
    | none => bytes
    | some count => bytes.take count
  match mark.letter with
  | 's' =>
    let (argument, out) := out.next
    out.write (padded isLeft width (cut (bytesOf argument.toList)))
  | 'b' =>
    let (argument, out) := out.next
    let written := resolve true argument.toList
    let out := out.write (padded isLeft width (cut written.bytes))
    if written.isEnd then { out with progress := .isOver } else out
  | 'c' =>
    let (argument, out) := out.next
    out.write (padded isLeft width [(bytesOf argument.toList).head?.getD 0])
  | 'd' | 'i' =>
    let (value, out) := out.nextNumber true
    out.write (shownNumber mark isLeft width precision value)
  | 'o' | 'u' | 'x' | 'X' =>
    let (value, out) := out.nextNumber false
    out.write (shownNumber mark isLeft width precision value)
  | _ => out.fail ("%" ++ String.ofList mark.text ++ ": invalid directive")

/-! ## Formats -/

/-- Writes a format once; `pending` is the text since the last mark, backwards. -/
def Printout.once (out : Printout) (pending : List Char) : List Char → Printout
  | [] => out.write (resolve false pending.reverse).bytes
  | '%' :: '%' :: rest => out.once ('%' :: pending) rest
  | '%' :: rest =>
    let out := out.write (resolve false pending.reverse).bytes
    match _h : mark? rest with
    | none => out.fail "missing format character"
    | some (mark, rest) =>
      let out := out.put mark
      match out.progress with
      | .goesOn => out.once [] rest
      | _ => out
  | c :: rest => out.once (c :: pending) rest
termination_by text => text.length
decreasing_by
  · simp only [List.length_cons]
    omega
  · have := length_of_mark? _h
    simp only [List.length_cons]
    omega
  · simp only [List.length_cons]
    omega

/-- Writes a format as often as it takes to use up the arguments, and once at least; a format that
uses none is written once. -/
def Printout.all (out : Printout) (format : List Char) : Printout :=
  let next := out.once [] format
  if _h : next.arguments.length < out.arguments.length then
    if next.arguments = [] ∨ next.progress ≠ .goesOn then next else next.all format
  else next
termination_by out.arguments.length
decreasing_by exact _h

/-- What a format with arguments writes. -/
def printout (format : String) (arguments : List String) : Printout :=
  Printout.all ⟨arguments, [], [], .goesOn⟩ format.toList

/-- The status of a command that wrote a format. -/
def Printout.status (out : Printout) : Nat :=
  if out.progress = .failed then 2 else if out.complaints = [] then 0 else 1

end WallpaperRotation.Script
