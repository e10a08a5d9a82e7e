/-
# Running commands

A command is a program with its arguments.  It fails when there is no such program, and when the
program ends badly; in that case what the program said on its error output is told.
-/
import WallpaperRotation.Command.Interpreter
import WallpaperRotation.Storage
import WallpaperRotation.Text.Lossy

namespace WallpaperRotation

/-! ## Programs -/

/-- How a program ended, and what it said on its error output. -/
structure Exit where
  isSuccess : Bool
  complaint : List UInt8
  disk : Disk

/-- The end of a program that says nothing. -/
def Exit.quiet (disk : Disk) (status : Nat) : Exit := ⟨status = 0, [], disk⟩

/-- Runs the text of a script with parameters, of which the one with the number zero is its name. -/
def Disk.runScript (disk : Disk) (text : String) (parameters : List String) : Exit :=
  let reading := Script.ofText text.toList
  let values := [("PWD", "/" ++ "/".intercalate disk.here)]
  let start : Script.Run := ⟨parameters, values, 0, [], disk⟩
  let (status, run) := start.all reading.commands reading.fault
  ⟨status = some 0, run.complaint, run.disk⟩

/-- Runs the interpreter of scripts. -/
def Disk.runInterpreter (disk : Disk) : List String → Exit
  | [] => .quiet disk 0
  | ["-c"] => ⟨false, Script.complaintText "sh" 0 "-c requires an argument", disk⟩
  | "-c" :: text :: parameters =>
    disk.runScript text (if parameters = [] then ["sh"] else parameters)
  | path :: parameters =>
    match disk.read ⟨path⟩ with
    | .ok bytes =>
      disk.runScript (String.ofList (Text.decodeLossy bytes.toList)) (path :: parameters)
    | .error _ =>
      ⟨false, Script.complaintText "sh" 0 ("cannot open " ++ path ++ ": No such file"), disk⟩

/-- The end of a program that tested something. -/
def Exit.ofTest (disk : Disk) (program : String) (answer : Except TestFault Bool) : Exit :=
  let (status, fault) := testStatus answer
  let complaint :=
    match fault with
    | none => []
    | some fault => Script.bytesOf (program ++ ": " ++ fault.message ++ "\n").toList
  ⟨status = 0, complaint, disk⟩

/-- The folders in which programs are looked for by their names. -/
def programFolders : List String := ["/bin/", "/usr/bin/"]

/-- The name of a program in one of the folders of programs. -/
def programName (program : String) : String :=
  match programFolders.find? fun folder => folder.toList.isPrefixOf program.toList with
  | some folder => String.ofList (program.toList.drop folder.toList.length)
  | none => program

/-- Why what is no program cannot be run: what has a separator in its name is looked for on the
disk, where nothing may be run, and folders are no programs.  A name alone is looked for among the
programs, unless it is longer than the name of any file. -/
def Disk.refusal (disk : Disk) (program : String) : DiskFault :=
  if program = "." ∨ program = ".." then .denied
  else if program.toList.contains '/' then
    match disk.entry true ⟨program⟩ with
    | .ok _ => .denied
    | .error reason => reason
  else if program.utf8ByteSize > longestName then .nameTooLong
  else .noEntry

/-- Runs a program. -/
def Disk.runProgram (disk : Disk) (program : String) (arguments : List String) :
    Except DiskFault Exit :=
  if (program :: arguments).any fun text => text.toList.contains (Char.ofNat 0) then
    .error .nulInArgument
  else
    match programName program with
    | "true" => .ok (.quiet disk 0)
    | "false" => .ok (.quiet disk 1)
    | "test" => .ok (.ofTest disk program (disk.program arguments))
    | "[" => .ok (.ofTest disk program (unbracketed .unclosed arguments >>= disk.program))
    | "sh" => .ok (disk.runInterpreter arguments)
    | _ => .error (disk.refusal program)

/-! ## Commands -/

/-- Runs a command. -/
def Disk.runCommand (disk : Disk) : List String → OnDisk Unit
  | [] => (.error .emptyCommand, disk)
  | program :: arguments =>
    match disk.runProgram program arguments with
    | .error reason => (.error (.notRun program reason), disk)
    | .ok exit =>
      if exit.isSuccess then (.ok (), exit.disk)
      else
        let complaint := String.ofList (Text.trim (Text.decodeLossy exit.complaint))
        (.error (.badExit program complaint), exit.disk)

end WallpaperRotation
