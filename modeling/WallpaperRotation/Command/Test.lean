/-
# Tests

A test is a list of arguments that asks about files, texts and numbers.  It is read in two ways: a
program of its own goes by the number of arguments first, and the interpreter of scripts reads
operators as they come.  The main fact says that what is read of a test gets shorter.
-/
import WallpaperRotation.Disk.Read
import WallpaperRotation.Result

namespace WallpaperRotation

/-! ## Faults -/

/-- Why arguments are no test. -/
inductive TestFault where
  /-- A text has to be a number, says the program. -/
  | noInteger (text : String)
  /-- A text has to be a number, says the interpreter. -/
  | noNumber (text : String)
  /-- Something has to follow the last argument. -/
  | incomplete (last : String)
  | notUnary (text : String)
  | notBinary (text : String)
  | surplus (text : String)
  | unclosed
  /-- Something follows a test that is complete, the last argument of which is told. -/
  | unexpected (last : String)
  | noOperand (operator : String)
  | unclosedBracket
  deriving DecidableEq, Repr

/-- A byte as it stands between quotes. -/
def quotedByte (byte : UInt8) : List Char :=
  let octal (n : Nat) : Char := Char.ofNat ('0'.toNat + n % 8)
  match byte.toNat with
  | 7 => ['\\', 'a']
  | 8 => ['\\', 'b']
  | 9 => ['\\', 't']
  | 10 => ['\\', 'n']
  | 11 => ['\\', 'v']
  | 12 => ['\\', 'f']
  | 13 => ['\\', 'r']
  | 39 => ['\\', '\'']
  | 92 => ['\\', '\\']
  | n =>
    if 32 ≤ n ∧ n < 127 then [Char.ofNat n]
    else ['\\', octal (n / 64), octal (n / 8), octal n]

/-- A text between quotes. -/
def quoted (text : String) : String :=
  "'" ++ String.ofList (text.toUTF8.toList.flatMap quotedByte) ++ "'"

/-- The wording of a fault. -/
def TestFault.message : TestFault → String
  | .noInteger text => "invalid integer " ++ quoted text
  | .noNumber text => "Illegal number: " ++ text
  | .incomplete last => "missing argument after " ++ quoted last
  | .notUnary text => quoted text ++ ": unary operator expected"
  | .notBinary text => quoted text ++ ": binary operator expected"
  | .surplus text => "extra argument " ++ quoted text
  | .unclosed => "missing ']'"
  | .unexpected last => (if last = "" then "" else last ++ ": ") ++ "unexpected operator"
  | .noOperand operator => operator ++ ": argument expected"
  | .unclosedBracket => "missing ]"

/-! ## Operators -/

/-- The character is a blank around numbers. -/
def isNumberBlank (c : Char) : Bool := c = ' ' || ('\t' ≤ c && c ≤ '\r')

/-- The number that a text is: digits with an optional sign, blanks around them. -/
def integer? (text : String) : Option Int :=
  let isNegative := (text.toList.dropWhile isNumberBlank).head? = some '-'
  let body :=
    match text.toList.dropWhile isNumberBlank with
    | '-' :: rest | '+' :: rest => rest
    | rest => rest
  let digits := body.takeWhile Char.isDigit
  let value : Int := digits.foldl (fun n c => n * 10 + (c.toNat - '0'.toNat)) 0
  if digits = [] || !(body.drop digits.length).all isNumberBlank then none
  else some (if isNegative then -value else value)

/-- The number as the program reads it. -/
def anyInteger (text : String) : Except TestFault Int :=
  match integer? text with
  | some value => .ok value
  | none => .error (.noInteger text)

/-- The number as the interpreter reads it, which has to fit into 64 bits. -/
def smallInteger (text : String) : Except TestFault Int :=
  match integer? text with
  | some value =>
    if -9223372036854775808 ≤ value ∧ value < 9223372036854775808 then .ok value
    else .error (.noNumber text)
  | none => .error (.noNumber text)

/-- How numbers in tests are read. -/
abbrev NumberReader := String → Except TestFault Int

/-- The answer to an operator in front of an operand; `none` when there is no such operator. -/
def Disk.testOne (disk : Disk) (read : NumberReader) (operator operand : String) :
    Option (Except TestFault Bool) :=
  match operator with
  | "-n" => some (.ok (operand ≠ ""))
  | "-z" => some (.ok (operand = ""))
  | "-e" | "-r" | "-w" | "-O" | "-G" => some (.ok (disk.holds ⟨operand⟩))
  | "-f" => some (.ok (disk.isFile ⟨operand⟩))
  | "-d" | "-x" => some (.ok (disk.isFolder ⟨operand⟩))
  | "-s" =>
    some (.ok (disk.isFolder ⟨operand⟩ ||
      match disk.read ⟨operand⟩ with | .ok bytes => bytes.size ≠ 0 | .error _ => false))
  | "-h" | "-L" =>
    some (.ok (match disk.entry false ⟨operand⟩ with | .ok (_, .link _) => true | _ => false))
  | "-b" | "-c" | "-p" | "-S" | "-u" | "-g" | "-k" => some (.ok false)
  | "-t" => some ((read operand).map fun _ => false)
  | _ => none

/-- The file at the first path was changed after the one at the second, or there is no second. -/
def Disk.isNewer (disk : Disk) (first second : String) : Bool :=
  disk.holds ⟨first⟩ &&
    (!disk.holds ⟨second⟩ ||
      match disk.modified? ⟨first⟩, disk.modified? ⟨second⟩ with
      | some later, some earlier => earlier < later
      | _, _ => false)

/-- Two paths lead to one entry. -/
def Disk.isSame (disk : Disk) (first second : String) : Bool :=
  match disk.entry true ⟨first⟩, disk.entry true ⟨second⟩ with
  | .ok (left, _), .ok (right, _) => left = right
  | _, _ => false

/-- The answer to an operator between two operands; `none` when there is no such operator. -/
def Disk.testTwo (disk : Disk) (read : NumberReader) (left operator right : String) :
    Option (Except TestFault Bool) :=
  let compare (meets : Int → Int → Bool) : Except TestFault Bool := do
    return meets (← read left) (← read right)
  match operator with
  | "=" => some (.ok (left = right))
  | "!=" => some (.ok (left ≠ right))
  | "-eq" => some (compare (· = ·))
  | "-ne" => some (compare (· ≠ ·))
  | "-lt" => some (compare (· < ·))
  | "-le" => some (compare (· ≤ ·))
  | "-gt" => some (compare (· > ·))
  | "-ge" => some (compare (· ≥ ·))
  | "-nt" => some (.ok (disk.isNewer left right))
  | "-ot" => some (.ok (disk.isNewer right left))
  | "-ef" => some (.ok (disk.isSame left right))
  | _ => none

/-! ## The program -/

/-- A text of a hyphen and one more character. -/
def looksUnary (text : String) : Bool :=
  match text.toList with
  | ['-', _] => true
  | _ => false

/-- The answer of the program to an operator between two operands. -/
def Disk.programTwo (disk : Disk) (left operator right : String) :
    Option (Except TestFault Bool) :=
  disk.testTwo anyInteger left (if operator = "==" then "=" else operator) right

/-- The answer of the program to an operator in front of an operand. -/
def Disk.programOne (disk : Disk) (operator operand : String) : Except TestFault Bool :=
  (disk.testOne anyInteger operator operand).getD (.error (.notUnary operator))

/-- The answer to the part of a test at the start of arguments, and what is left; `last` is the last
of all arguments. -/
def Disk.programTerm (disk : Disk) (last : String) :
    List String → Except TestFault (Bool × List String)
  | [] => .error (.incomplete last)
  | "!" :: rest => (disk.programTerm last rest).map fun (holds, rest) => (!holds, rest)
  | first :: second :: third :: rest =>
    match disk.programTwo first second third with
    | some answer => answer.map fun holds => (holds, rest)
    | none =>
      if looksUnary first then
        (disk.programOne first second).map fun holds => (holds, third :: rest)
      else .ok (first ≠ "", second :: third :: rest)
  | [first, second] =>
    if looksUnary first then (disk.programOne first second).map fun holds => (holds, [])
    else .ok (first ≠ "", [second])
  | [first] =>
    if looksUnary first then
      .error (if (disk.testOne anyInteger first "").isSome then .incomplete last
        else .notUnary first)
    else .ok (first ≠ "", [])

/-- A part of a test is not empty. -/
theorem Disk.length_programTerm (disk : Disk) (last : String) :
    ∀ {arguments : List String} {holds : Bool} {left : List String},
      disk.programTerm last arguments = .ok (holds, left) → left.length < arguments.length := by
  intro arguments holds left h
  fun_induction Disk.programTerm disk last arguments generalizing holds left with
  | case1 => cases h
  | case2 rest ih =>
    obtain ⟨⟨_, rest⟩, hterm, hmade⟩ := exists_of_map_ok h
    cases hmade
    exact Nat.lt_succ_of_lt (ih hterm)
  | case3 first second third rest =>
    obtain ⟨_, _, hmade⟩ := exists_of_map_ok h
    cases hmade
    simp only [List.length_cons]
    omega
  | case4 first second third rest =>
    obtain ⟨_, _, hmade⟩ := exists_of_map_ok h
    cases hmade
    simp only [List.length_cons]
    omega
  | case5 =>
    cases h
    simp only [List.length_cons]
    omega
  | case6 first second =>
    obtain ⟨_, _, hmade⟩ := exists_of_map_ok h
    cases hmade
    exact Nat.zero_lt_succ _
  | case7 =>
    cases h
    simp only [List.length_cons]
    omega
  | case8 => cases h
  | case9 =>
    cases h
    exact Nat.zero_lt_succ _

/-- The answer to parts of a test joined by `-a` and `-o`, of which the first binds closer.  So far
some alternative held, and so did the parts of this one. -/
def Disk.programParts (disk : Disk) (last : String) (held holding : Bool)
    (arguments : List String) : Except TestFault Bool :=
  match _h : disk.programTerm last arguments with
  | .error fault => .error fault
  | .ok (holds, rest) =>
    let holding := holding && holds
    match rest with
    | [] => .ok (held || holding)
    | next :: rest =>
      if next = "-a" then disk.programParts last held holding rest
      else if next = "-o" then disk.programParts last (held || holding) true rest
      else .error (.surplus next)
termination_by arguments.length
decreasing_by
  all_goals
    have := disk.length_programTerm last _h
    simp only [List.length_cons] at this
    omega

/-- The answer of the program to a test. -/
def Disk.program (disk : Disk) (arguments : List String) : Except TestFault Bool :=
  let last := arguments.getLast?.getD ""
  let two (first second : String) : Except TestFault Bool :=
    if first = "!" then .ok (second = "")
    else if looksUnary first then disk.programOne first second
    else .error (.incomplete last)
  let three (first second third : String) : Except TestFault Bool :=
    match disk.programTwo first second third with
    | some answer => answer
    | none =>
      if first = "!" then (two second third).map (! ·)
      else if first = "(" ∧ third = ")" then .ok (second ≠ "")
      else if second = "-a" ∨ second = "-o" then disk.programParts last false true arguments
      else .error (.notBinary second)
  match arguments with
  | [] => .ok false
  | [text] => .ok (text ≠ "")
  | [first, second] => two first second
  | [first, second, third] => three first second third
  | ["!", first, second, third] => (three first second third).map (! ·)
  | ["(", first, second, ")"] => two first second
  | _ => disk.programParts last false true arguments

/-! ## The interpreter -/

/-- The answer of the interpreter to an operator between two operands. -/
def Disk.builtinTwo (disk : Disk) (left operator right : String) :
    Option (Except TestFault Bool) :=
  match operator with
  | "<" => some (.ok (left < right))
  | ">" => some (.ok (right < left))
  | _ => disk.testTwo smallInteger left operator right

/-- The text is an operator between two operands. -/
def isBinary (text : String) : Bool :=
  ["=", "!=", "<", ">", "-eq", "-ne", "-lt", "-le", "-gt", "-ge", "-nt", "-ot", "-ef"].contains text

/-- The answer to the part of a test at the start of arguments, the last argument of that part, and
what is left. -/
def Disk.builtinTerm (disk : Disk) :
    List String → Except TestFault (Bool × String × List String)
  | [] => .ok (false, "", [])
  | "!" :: rest =>
    (disk.builtinTerm rest).map fun (holds, last, left) =>
      (!holds, if rest = [] then "!" else last, left)
  | [first] => .ok (first ≠ "", first, [])
  | [first, second] =>
    match disk.testOne smallInteger first second with
    | some answer => answer.map fun holds => (holds, second, [])
    | none =>
      if isBinary second then .error (.noOperand second) else .ok (first ≠ "", first, [second])
  | first :: second :: third :: rest =>
    match disk.builtinTwo first second third with
    | some answer => answer.map fun holds => (holds, third, rest)
    | none =>
      match disk.testOne smallInteger first second with
      | some answer => answer.map fun holds => (holds, second, third :: rest)
      | none => .ok (first ≠ "", first, second :: third :: rest)

/-- A part of a test leaves no more than the arguments. -/
theorem Disk.length_builtinTerm (disk : Disk) {arguments : List String} :
    ∀ {holds : Bool} {last : String} {left : List String},
      disk.builtinTerm arguments = .ok (holds, last, left) → left.length ≤ arguments.length := by
  intro holds last left h
  fun_induction Disk.builtinTerm disk arguments generalizing holds last left with
  | case1 =>
    cases h
    exact Nat.le_refl _
  | case2 rest ih =>
    obtain ⟨⟨_, _, rest⟩, hterm, hmade⟩ := exists_of_map_ok h
    cases hmade
    exact Nat.le_succ_of_le (ih hterm)
  | case3 =>
    cases h
    exact Nat.zero_le _
  | case4 =>
    obtain ⟨_, _, hmade⟩ := exists_of_map_ok h
    cases hmade
    exact Nat.zero_le _
  | case5 => cases h
  | case6 =>
    cases h
    simp only [List.length_cons]
    omega
  | case7 =>
    obtain ⟨_, _, hmade⟩ := exists_of_map_ok h
    cases hmade
    simp only [List.length_cons]
    omega
  | case8 =>
    obtain ⟨_, _, hmade⟩ := exists_of_map_ok h
    cases hmade
    simp only [List.length_cons]
    omega
  | case9 =>
    cases h
    simp only [List.length_cons]
    omega

/-- The answer to parts of a test joined by `-a` and `-o`, of which the first binds closer.  So far
some alternative held, and so did the parts of this one. -/
def Disk.builtinParts (disk : Disk) (held holding : Bool) (arguments : List String) :
    Except TestFault Bool :=
  match _h : disk.builtinTerm arguments with
  | .error fault => .error fault
  | .ok (holds, last, rest) =>
    let holding := holding && holds
    match rest with
    | [] => .ok (held || holding)
    | next :: rest =>
      if next = "-a" then disk.builtinParts held holding rest
      else if next = "-o" then disk.builtinParts (held || holding) true rest
      else .error (.unexpected last)
termination_by arguments.length
decreasing_by
  all_goals
    have := disk.length_builtinTerm _h
    simp only [List.length_cons] at this
    omega

/-- The answer of the interpreter to a test. -/
def Disk.builtin (disk : Disk) (arguments : List String) : Except TestFault Bool :=
  let parts := disk.builtinParts false true
  let three (isNegated : Bool) (first second third : String) : Except TestFault Bool :=
    match disk.builtinTwo first second third with
    | some answer => answer.map (· != isNegated)
    | none =>
      if first = "(" ∧ third = ")" then (parts [second]).map (· != isNegated)
      else if first = "!" then (parts [second, third]).map (! ·)
      else (parts [first, second, third]).map (· != isNegated)
  match arguments with
  | [] => .ok false
  | [first, second, third] => three false first second third
  | ["(", first, second, ")"] => parts [first, second]
  | ["!", first, second, third] => three true first second third
  | _ => parts arguments

/-! ## Statuses -/

/-- The arguments of a test that ends with a closing bracket. -/
def unbracketed (fault : TestFault) (arguments : List String) : Except TestFault (List String) :=
  if arguments.getLast? = some "]" then .ok arguments.dropLast else .error fault

/-- The status of a command that tested something, and what it complains about. -/
def testStatus : Except TestFault Bool → Nat × Option TestFault
  | .ok true => (0, none)
  | .ok false => (1, none)
  | .error fault => (2, some fault)

end WallpaperRotation
