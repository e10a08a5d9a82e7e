/-
# Signals

A signal is sent to processes by its number or by its name.  Most signals end the process that they
reach.
-/

namespace WallpaperRotation.Script

/-! ## Names and numbers -/

/-- The names of the signals from number one on. -/
def signalNames : List String :=
  ["HUP", "INT", "QUIT", "ILL", "TRAP", "ABRT", "BUS", "FPE", "KILL", "USR1", "SEGV", "USR2",
    "PIPE", "ALRM", "TERM", "16", "CHLD", "CONT", "STOP", "TSTP", "TTIN", "TTOU", "URG", "XCPU",
    "XFSZ", "VTALRM", "PROF", "WINCH", "IO", "PWR", "SYS"]

/-- Signals have smaller numbers than this. -/
def signalCount : Nat := 65

/-- The signal that ends a process unless another one is asked for. -/
def terminationSignal : Nat := 15

/-- Signals that do not end the process they reach. -/
def harmlessSignals : List Nat := [0, 17, 18, 19, 20, 21, 22, 23, 28]

/-- The number in decimal digits that a text is. -/
def natural? (text : String) : Option Nat :=
  let digits := text.toList
  if digits ≠ [] ∧ digits.all Char.isDigit then
    some (digits.foldl (fun n c => n * 10 + (c.toNat - '0'.toNat)) 0)
  else none

/-- The signal with a number or, in letters of any case, with a name. -/
def signal? (text : String) : Option Nat :=
  match natural? text with
  | some number => if number < signalCount then some number else none
  | none =>
    match signalNames.idxOf? (text.map Char.toUpper) with
    | some index => some (index + 1)
    | none => none

/-! ## Requests -/

/-- Why no signal is sent. -/
inductive SignalFault where
  | usage
  | noOption (letter : Char)
  | noArgument (letter : Char)
  | noSignal (text : String)
  | noNumber (text : String)
  deriving DecidableEq, Repr

/-- The wording of a fault. -/
def SignalFault.message : SignalFault → String
  | .usage =>
    "Usage: kill [-s sigspec | -signum | -sigspec] [pid | job]... or\nkill -l [exitstatus]"
  | .noOption letter => "Illegal option -" ++ letter.toString
  | .noArgument letter => "No arg for -" ++ letter.toString ++ " option"
  | .noSignal text => "invalid signal number or name: " ++ text
  | .noNumber text => "Illegal number: " ++ text

/-- The signal that options ask for, and the arguments behind them. -/
def signalOptions (signal : Nat) : List String → Except SignalFault (Nat × List String)
  | [] => .ok (signal, [])
  | "--" :: rest => .ok (signal, rest)
  | text :: rest =>
    let named (name : String) (rest : List String) : Except SignalFault (Nat × List String) :=
      match signal? name with
      | some signal => .ok (signal, rest)
      | none => .error (.noSignal name)
    match text.toList, rest with
    | ['-', 's'], [] => .error (.noArgument 's')
    | ['-', 's'], name :: rest =>
      match named name rest with
      | .ok (signal, _) => signalOptions signal rest
      | .error fault => .error fault
    | '-' :: 's' :: name, rest =>
      match named (String.ofList name) rest with
      | .ok (signal, _) => signalOptions signal rest
      | .error fault => .error fault
    | '-' :: letter :: _, _ => .error (.noOption letter)
    | _, _ => .ok (signal, text :: rest)

/-- The signal to be sent, and the processes it is sent to. -/
def signalRequest (arguments : List String) : Except SignalFault (Nat × List String) := do
  let (signal, targets) ←
    match arguments with
    | [] => .error .usage
    | text :: rest =>
      match text.toList with
      | '-' :: name =>
        match signal? (String.ofList name) with
        | some signal => .ok (signal, rest)
        | none => signalOptions terminationSignal arguments
      | _ => .ok (terminationSignal, arguments)
  if targets = [] then .error .usage else return (signal, targets)

end WallpaperRotation.Script
