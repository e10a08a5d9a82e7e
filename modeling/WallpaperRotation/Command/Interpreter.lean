/-
# Running scripts

A script runs command by command on a disk.  What commands say on their standard output is not
kept; what they say on their error output is.
-/
import WallpaperRotation.Command.Printing
import WallpaperRotation.Command.Script
import WallpaperRotation.Command.Signal
import WallpaperRotation.Command.Test
import WallpaperRotation.Disk.Write

namespace WallpaperRotation.Script

/-! ## Arguments -/

/-- A script that is running: its parameters, of which the one with the number zero is its name, the
values of names, the status of the last command, what was said on the error output, and the disk. -/
structure Run where
  parameters : List String
  values : List (String × String)
  status : Nat
  complaint : List UInt8
  disk : Disk

/-- The number of the process that runs a script. -/
def processNumber : String := "1"

/-- The script's name. -/
def Run.name (run : Run) : String := run.parameters.head?.getD ""

/-- The value of a name, which is empty for a name that has none. -/
def Run.value (run : Run) (name : String) : String := (run.values.lookup name).getD ""

/-- Fields that are complete and one that still grows, if any does. -/
structure Fields where
  complete : List (List Char)
  growing : Option (List Char)

namespace Fields

/-- The fields with characters put behind the growing one. -/
def add (fields : Fields) (text : List Char) : Fields :=
  { fields with growing := some (fields.growing.getD [] ++ text) }

/-- The fields, none of which grows. -/
def close (fields : Fields) : Fields :=
  ⟨fields.complete ++ fields.growing.toList, none⟩

/-- The fields with a text put behind, which is split at its blanks unless it is quoted. -/
def addText (fields : Fields) (isQuoted : Bool) (text : String) : Fields :=
  if isQuoted then fields.add text.toList
  else
    text.toList.foldl (fun fields c =>
      if c = ' ' ∨ c = '\t' ∨ c = '\n' then fields.close else fields.add [c]) fields

/-- The fields with texts put behind, each of which starts a field but the first. -/
def addTexts (fields : Fields) (isQuoted : Bool) : List String → Fields
  | [] => fields
  | text :: rest =>
    rest.foldl (fun fields text => fields.close.addText isQuoted text)
      (fields.addText isQuoted text)

end Fields

/-- The fields with a piece of a word put behind. -/
def Run.addPiece (run : Run) (fields : Fields) : Piece → Fields
  | .literal c => fields.add [c]
  | .parameter number isQuoted => fields.addText isQuoted (run.parameters[number]?.getD "")
  | .parameters isJoined isQuoted =>
    if isJoined && isQuoted then fields.addText true (" ".intercalate run.parameters.tail)
    else fields.addTexts isQuoted run.parameters.tail
  | .count => fields.addText false (toString run.parameters.tail.length)
  | .process => fields.addText false processNumber
  | .status => fields.addText false (toString run.status)
  | .value name isQuoted => fields.addText isQuoted (run.value name)
  | .nameless => fields

/-- The arguments that a word stands for. -/
def Run.expand (run : Run) (word : Word) : List String :=
  if word = [] then [""]
  else (word.foldl run.addPiece ⟨[], none⟩).close.complete.map String.ofList

/-- A piece that is not split. -/
def Piece.quoted : Piece → Piece
  | .parameter number _ => .parameter number true
  | .parameters _ _ => .parameters true true
  | .value name _ => .value name true
  | piece => piece

/-- The text that a word stands for where it is not split. -/
def Run.text (run : Run) (word : Word) : String :=
  "".intercalate (run.expand (word.map Piece.quoted))

/-! ## Outputs -/

/-- Where what is said goes. -/
inductive Sink where
  | nowhere
  | complaint
  | file (path : FilePath)

/-- Where the outputs that are open go. -/
abbrev Sinks := List (Nat × Sink)

/-- The outputs of a script. -/
def ownSinks : Sinks := [(0, .nowhere), (1, .nowhere), (2, .complaint)]

/-- Where an output goes; what is said on a closed one is lost. -/
def Sinks.get (sinks : Sinks) (output : Nat) : Sink := (sinks.lookup output).getD .nowhere

/-- The file that swallows what is written to it. -/
def voidPath : FilePath := ⟨"/dev/null"⟩

/-- What bytes that are said do to a run. -/
def Run.say (run : Run) (bytes : List UInt8) : Sink → Run
  | .nowhere => run
  | .complaint => { run with complaint := run.complaint ++ bytes }
  | .file path =>
    match run.disk.read path with
    | .error _ => run
    | .ok old =>
      match run.disk.write path (old ++ ByteArray.mk bytes.toArray) with
      | .error _ => run
      | .ok disk => { run with disk := disk }

/-- What the interpreter says about a line of a script with a name. -/
def complaintText (name : String) (line : Nat) (text : String) : List UInt8 :=
  bytesOf (name ++ ": " ++ toString line ++ ": " ++ text ++ "\n").toList

/-- Why a file cannot take an output. -/
def refusalText : DiskFault → String
  | .noEntry | .notFolder => "Directory nonexistent"
  | .isFolder => "Is a directory"
  | .denied => "Permission denied"
  | .nameTooLong => "File name too long"
  | _ => "Too many levels of symbolic links"

/-- What the interpreter says about an output that is no number. -/
def badNumberText : String := "Syntax error: Bad fd number"

/-- Makes a file for an output ready. -/
def Run.openFile (run : Run) (isAppended : Bool) (path : FilePath) : Except DiskFault Run :=
  let old :=
    match run.disk.read path with
    | .ok bytes => if isAppended then bytes else ByteArray.empty
    | .error _ => ByteArray.empty
  (run.disk.write path old).map fun disk => { run with disk := disk }

/-- Why a command is not run with its redirections. -/
inductive Refusal where
  /-- The command fails. -/
  | mild (run : Run)
  /-- The script ends. -/
  | grave (run : Run)

/-- Makes the redirections of a command one after the other. -/
def Run.redirect (run : Run) (command : Command) (sinks : Sinks) :
    List Redirection → Except Refusal (Sinks × Run)
  | [] => .ok (sinks, run)
  | .join output word :: rest =>
    let grave : Refusal :=
      .grave (run.say (complaintText run.name command.lineAhead badNumberText) .complaint)
    match (run.text word).toList with
    | ['-'] => run.redirect command (sinks.filter fun entry => entry.1 ≠ output) rest
    | [c] =>
      match c.isDigit, sinks.lookup (digit c) with
      | true, some sink => run.redirect command ((output, sink) :: sinks) rest
      | true, none =>
        let text := c.toString ++ ": Bad file descriptor"
        .error (.mild (run.say (complaintText run.name command.line text) (sinks.get 2)))
      | false, _ => .error grave
    | _ => .error grave
  | .file output isAppended word :: rest =>
    let path : FilePath := ⟨run.text word⟩
    if path.same voidPath then run.redirect command ((output, .nowhere) :: sinks) rest
    else
      match run.openFile isAppended path with
      | .error reason =>
        let text := "cannot create " ++ path.text ++ ": " ++ refusalText reason
        .error (.mild (run.say (complaintText run.name command.line text) (sinks.get 2)))
      | .ok run => run.redirect command ((output, .file path) :: sinks) rest

/-! ## Commands -/

/-- How a script goes on after a command. -/
inductive Course where
  | goesOn (run : Run)
  /-- The script ends, with a status unless it was killed. -/
  | ends (run : Run) (status : Option Nat)

/-- The run with the status of a command. -/
def Run.withStatus (run : Run) (status : Nat) : Course :=
  .goesOn { run with status := status }

/-- A command with its arguments, where its line and its outputs are known. -/
structure Call where
  line : Nat
  sinks : Sinks
  name : String
  arguments : List String

/-- The run after a command complained of something. -/
def Run.complain (run : Run) (call : Call) (text : String) : Run :=
  run.say (complaintText run.name call.line (call.name ++ ": " ++ text)) (call.sinks.get 2)

/-- Runs a test. -/
def Run.test (run : Run) (call : Call) (answer : Except TestFault Bool) : Course :=
  let (status, fault) := testStatus answer
  match fault with
  | none => run.withStatus status
  | some fault => (run.complain call fault.message).withStatus status

/-- Writes a format; what is said about its arguments comes first. -/
def Run.print (run : Run) (call : Call) (arguments : List String) : Course :=
  match arguments with
  | [] => (run.complain call "usage: printf format [arg ...]").withStatus 2
  | format :: arguments =>
    let out := printout format arguments
    ((out.complaints.foldl (·.complain call) run).say out.bytes (call.sinks.get 1)).withStatus
      out.status

/-- The greatest number that ends a script. -/
def exitLimit : Nat := 2147483647

/-- Ends a script. -/
def Run.exit (run : Run) (call : Call) : Course :=
  match call.arguments with
  | [] => .ends run (some run.status)
  | text :: _ =>
    let refused : Course := .ends (run.complain call ("Illegal number: " ++ text)) (some 2)
    match natural? (String.ofList (text.toList.dropWhile isSpace)) with
    | none => refused
    | some number => if number ≤ exitLimit then .ends run (some (number % 256)) else refused

/-- Sends a signal to processes, of which only the one that runs the script is there. -/
def Run.kill (run : Run) (call : Call) (signal : Nat) : List String → Course
  | [] => .goesOn run
  | target :: rest =>
    let digits := if target.toList.head? = some '-' then target.toList.tail else target.toList
    match natural? (String.ofList digits) with
    | none =>
      let fault := SignalFault.noNumber (String.ofList digits)
      (run.complain call fault.message).withStatus 2
    | some _ =>
      if target ≠ processNumber then
        Run.kill { run.complain call "No such process\n" with status := 1 } call signal rest
      else if harmlessSignals.contains signal then run.kill call signal rest
      else .ends run none

/-- Runs a command that is none of the interpreter's own: none is there. -/
def Run.miss (run : Run) (call : Call) : Course :=
  let isThere := call.name = "" ∨ (call.name.toList.contains '/' ∧ run.disk.holds ⟨call.name⟩)
  let text := if isThere then "Permission denied" else "not found"
  (run.complain call text).withStatus (if isThere ∧ call.name ≠ "" then 126 else 127)

/-- Runs one command with its arguments. -/
def Run.execute (run : Run) (call : Call) : Course :=
  match call.name with
  | ":" | "true" | "." => run.withStatus 0
  | "false" => run.withStatus 1
  | "echo" =>
    let bytes :=
      match call.arguments with
      | "-n" :: rest => echo false rest
      | arguments => echo true arguments
    (run.say bytes (call.sinks.get 1)).withStatus 0
  | "printf" =>
    match call.arguments with
    | "--" :: arguments => run.print call arguments
    | arguments =>
      match (arguments.head?.getD "").toList with
      | '-' :: letter :: _ =>
        (run.complain call ("Illegal option -" ++ letter.toString)).withStatus 2
      | _ => run.print call arguments
  | "test" => run.test call (run.disk.builtin call.arguments)
  | "[" => run.test call (unbracketed .unclosedBracket call.arguments >>= run.disk.builtin)
  | "exit" => run.exit call
  | "kill" =>
    match signalRequest call.arguments with
    | .ok (signal, targets) => Run.kill { run with status := 0 } call signal targets
    | .error fault => (run.complain call fault.message).withStatus 2
  | _ => run.miss call

/-- Commands that end the script when they cannot run. -/
def isVital (name : String) : Bool := [":", ".", "exit"].contains name

/-- The condition holds after a command with a status. -/
def Condition.holds (condition : Condition) (status : Nat) : Bool :=
  match condition with
  | .always => true
  | .afterSuccess => status = 0
  | .afterFailure => status ≠ 0

/-- The name and the value that a word gives to it. -/
def Run.assignment? (run : Run) (word : Word) : Option (String × String) :=
  let name := word.takeWhile (· ≠ .literal '=')
  let characters := name.filterMap fun piece => match piece with | .literal c => some c | _ => none
  match characters, word.drop name.length with
  | c :: rest, _ :: value =>
    if characters.length = name.length ∧ startsName c ∧ rest.all goesOnName then
      some (String.ofList characters, if value = [] then "" else run.text value)
    else none
  | _, _ => none

/-- The run with the values that words give to names. -/
def Run.assign (run : Run) (words : List Word) : Run :=
  words.foldl (fun run word =>
    match run.assignment? word with
    | some (name, value) => { run with values := (name, value) :: run.values }
    | none => run) run

/-- Runs a command of a script whatever its condition. -/
def Run.perform (run : Run) (command : Command) : Course :=
  let words := command.words.dropWhile fun word => (run.assignment? word).isSome
  match words.flatMap run.expand, run.redirect command ownSinks command.redirections with
  | _, .error (.grave run) => .ends run (some 2)
  | name :: _, .error (.mild run) => if isVital name then .ends run (some 2) else run.withStatus 2
  | [], .error (.mild run) => run.withStatus 2
  | [], .ok (_, run) => (if words = [] then run.assign command.words else run).withStatus 0
  | name :: arguments, .ok (sinks, run) => run.execute ⟨command.line, sinks, name, arguments⟩

/-- Runs one command of a script. -/
def Run.step (run : Run) (command : Command) : Course :=
  if !command.condition.holds run.status then .goesOn run
  else if command.isNameless then
    .ends (run.say (complaintText run.name command.line "Bad substitution") .complaint) (some 2)
  else
    match run.perform command with
    | .goesOn run =>
      if command.isNegated then run.withStatus (if run.status = 0 then 1 else 0) else .goesOn run
    | course => course

/-- Runs the commands of a script, up to what is wrong with it; the status is that of the last one,
and missing when the script was killed. -/
def Run.all (run : Run) : List Command → Option (Nat × ScriptFault) → Option Nat × Run
  | [], none => (some run.status, run)
  | [], some (line, fault) =>
    (some 2, run.say (complaintText run.name line fault.message) .complaint)
  | command :: rest, fault =>
    match run.step command with
    | .goesOn run => run.all rest fault
    | .ends run status => (status, run)

end WallpaperRotation.Script
