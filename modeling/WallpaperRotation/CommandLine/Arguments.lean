/-
# Reading arguments

Arguments are read one after the other: words that make up the verb, switches with what stands
behind them, and plain arguments.  A long switch starts with two hyphens and may have its operand
behind an equals sign; letters follow one hyphen, several of them together, and the operand of the
last one may follow it at once.  Behind two hyphens alone everything is a plain argument.
-/
import WallpaperRotation.CommandLine.Verb

namespace WallpaperRotation.CommandLine

/-! ## What was read -/

/-- A switch that was given with a verb. -/
structure Given where
  verb : Verb
  name : String
  operand : Option String
  deriving DecidableEq, Repr

/-- What was read up to now, the last one of the switches first. -/
structure Reading where
  verb : Verb
  given : List Given
  plain : List String
  deriving DecidableEq, Repr

/-- Why reading ends early. -/
inductive Interruption where
  /-- The arguments ask for nothing that the program can do. -/
  | misuse
  /-- The program is asked for its version, whatever comes behind. -/
  | version
  deriving DecidableEq, Repr

namespace Reading

/-- The reading before the first argument. -/
def blank : Reading := ⟨.program, [], []⟩

/-- The operand of the innermost switch with a name. -/
def operand? (reading : Reading) (name : String) : Option String :=
  (reading.given.find? fun given => given.name = name).bind Given.operand

/-- The switch was given. -/
def has (reading : Reading) (name : String) : Bool :=
  reading.given.any fun given => given.name = name

/-! ## Switches -/

/-- Takes a switch in; most may be given only once with a verb. -/
def take (reading : Reading) (switch : Switch) (operand : Option String) :
    Except Interruption Reading :=
  let isRepeated := reading.given.any fun given =>
    given.verb = reading.verb && given.name = switch.name
  if switch.name = "version" then .error .version
  else if isRepeated && switch.operand ≠ .again then .error .misuse
  else if operand.all switch.operand.accepts then
    .ok { reading with given := ⟨reading.verb, switch.name, operand⟩ :: reading.given }
  else .error .misuse

/-- Nothing may stand behind the switch. -/
def isBare (switch : Switch) : Bool :=
  match switch.operand with
  | .once | .again => true
  | _ => false

/-- Reads letters behind a hyphen.  The switch that comes back still lacks its operand. -/
def takeLetters (reading : Reading) :
    List Char → Except Interruption (Reading × Option Switch)
  | [] => .ok (reading, none)
  | c :: rest =>
    match reading.verb.options.find? fun switch => switch.letter = some c with
    | none => .error .misuse
    | some switch =>
      if isBare switch then do takeLetters (← reading.take switch none) rest
      else
        match rest with
        | [] => .ok (reading, some switch)
        | '=' :: rest => do return (← reading.take switch (some (String.ofList rest)), none)
        | rest => do return (← reading.take switch (some (String.ofList rest)), none)

/-- Reads what stands behind two hyphens.  The switch that comes back still lacks its operand. -/
def takeLong (reading : Reading) (text : List Char) :
    Except Interruption (Reading × Option Switch) :=
  let name := String.ofList (text.takeWhile (· ≠ '='))
  match reading.verb.options.find? fun switch => switch.name = name with
  | none => .error .misuse
  | some switch =>
    match text.dropWhile (· ≠ '=') with
    | [] => if isBare switch then do return (← reading.take switch none, none)
      else .ok (reading, some switch)
    | _ :: operand =>
      if isBare switch then .error .misuse
      else do return (← reading.take switch (some (String.ofList operand)), none)

/-- Takes a plain argument in. -/
def takePlain (reading : Reading) (text : String) : Except Interruption Reading :=
  if reading.plain.length < reading.verb.plainCount then
    .ok { reading with plain := reading.plain ++ [text] }
  else .error .misuse

/-- Takes in a word that is no switch: a part of the verb or a plain argument. -/
def takeWord (reading : Reading) (text : String) : Except Interruption Reading :=
  match reading.verb.followers.find? fun follower => follower.1 = text with
  | some (_, verb) => .ok { reading with verb := verb }
  | none => reading.takePlain text

/-! ## Arguments -/

/-- Reads arguments; `pending` is a switch that lacks its operand. -/
def arguments (reading : Reading) (pending : Option Switch) :
    List String → Except Interruption Reading
  | [] => if pending.isSome then .error .misuse else .ok reading
  | text :: rest =>
    match text.toList with
    | ['-', '-'] => if pending.isSome then .error .misuse else rest.foldlM takePlain reading
    | '-' :: '-' :: long =>
      if pending.isSome then .error .misuse
      else do
        let (reading, pending) ← reading.takeLong long
        reading.arguments pending rest
    | '-' :: c :: letters =>
      if pending.isSome then .error .misuse
      else do
        let (reading, pending) ← reading.takeLetters (c :: letters)
        reading.arguments pending rest
    | _ =>
      match pending with
      | some switch => do (← reading.take switch (some text)).arguments none rest
      | none => do (← reading.takeWord text).arguments none rest

end Reading

end WallpaperRotation.CommandLine
