/-
# Scripts

A script is a list of simple commands, each with its arguments and with files that take the place
of its outputs.  A command runs in any case, or only after one that went well, or only after one
that did not.
-/

namespace WallpaperRotation.Script

/-! ## Parts -/

/-- A piece of an argument.  What is not quoted is split at blanks. -/
inductive Piece where
  /-- A character that stands for itself. -/
  | literal (c : Char)
  /-- A parameter of the script by its number. -/
  | parameter (number : Nat) (isQuoted : Bool)
  /-- All parameters; quoted, they are one argument if they are joined and else one each. -/
  | parameters (isJoined isQuoted : Bool)
  /-- The count of parameters. -/
  | count
  /-- The number of the process that runs the script. -/
  | process
  /-- The status of the last command. -/
  | status
  /-- The value of a name. -/
  | value (name : String) (isQuoted : Bool)
  /-- What is no name stands where there has to be one. -/
  | nameless
  deriving DecidableEq, Repr

/-- An argument: pieces that are put together. -/
abbrev Word := List Piece

/-- Where the output with a number goes instead. -/
inductive Redirection where
  | file (output : Nat) (isAppended : Bool) (path : Word)
  /-- It goes where another output goes at that moment, the number of which is told. -/
  | join (output : Nat) (number : Word)
  deriving DecidableEq, Repr

/-- When a command runs. -/
inductive Condition where
  | always
  | afterSuccess
  | afterFailure
  deriving DecidableEq, Repr

/-- A simple command on a line of a script.  A negated one goes well if it does not. -/
structure Command where
  condition : Condition
  line : Nat
  /-- The line that has to be read next when the command runs. -/
  lineAhead : Nat
  isNegated : Bool
  words : List Word
  redirections : List Redirection
  deriving DecidableEq, Repr

/-- The command that has nothing to do. -/
def Command.idle (condition : Condition) (line : Nat) : Command :=
  ⟨condition, line, line, false, [], []⟩

/-- The command has nothing to do. -/
def Command.isIdle (command : Command) : Bool :=
  command.words.isEmpty && command.redirections.isEmpty && !command.isNegated

/-- The word of a redirection. -/
def Redirection.word : Redirection → Word
  | .file _ _ path => path
  | .join _ number => number

/-- Something in the command is no name where there has to be one. -/
def Command.isNameless (command : Command) : Bool :=
  (command.words ++ command.redirections.map Redirection.word).any (·.contains .nameless)

/-! ## Faults -/

/-- Why a text is no script. -/
inductive ScriptFault where
  | unclosedQuotes
  | unclosedBraces
  | unexpected (token : String)
  deriving DecidableEq, Repr

/-- The wording of a fault. -/
def ScriptFault.message : ScriptFault → String
  | .unclosedQuotes => "Syntax error: Unterminated quoted string"
  | .unclosedBraces => "Syntax error: Missing '\x7d'"
  | .unexpected token => "Syntax error: " ++ token ++ " unexpected"

/-! ## Tokens -/

/-- What a redirection does with the word behind it. -/
inductive Target where
  | replaced
  | appended
  | joined
  deriving DecidableEq, Repr

/-- A token of a script. -/
inductive Token where
  /-- A word, with the line in which it ends. -/
  | word (word : Word) (line : Nat)
  /-- The end of a command, how it is written, and when the next command runs. -/
  | next (text : String) (condition : Condition) (line : Nat)
  | newLine (line : Nat)
  /-- Nothing that follows can be read. -/
  | fault (fault : ScriptFault) (line : Nat)
  /-- An output goes where the next word says. -/
  | redirect (output : Nat) (target : Target) (line : Nat)
  deriving DecidableEq, Repr

/-- What the next character is part of. -/
inductive Mode where
  | plain
  | singleQuotes
  | doubleQuotes
  | comment
  /-- A name behind a dollar sign, backwards. -/
  | name (isQuoted : Bool) (name : List Char)
  /-- A name in braces, backwards. -/
  | braces (isQuoted : Bool) (name : List Char)

/-- The mode around a name. -/
def Mode.around (isQuoted : Bool) : Mode := if isQuoted then .doubleQuotes else .plain

/-- The word that ends here, if one does. -/
def closeWord (line : Nat) : Option Word → List Token
  | some word => [.word word line]
  | none => []

/-- The word with one more character. -/
def addChar (word : Option Word) (c : Char) : Option Word :=
  some (word.getD [] ++ [.literal c])

/-- The word with one more piece. -/
def addPiece (word : Option Word) (piece : Piece) : Option Word :=
  some (word.getD [] ++ [piece])

/-- The character starts a name. -/
def startsName (c : Char) : Bool := c.isAlpha || c = '_'

/-- The character goes on with a name. -/
def goesOnName (c : Char) : Bool := startsName c || c.isDigit

/-- The number that a character is. -/
def digit (c : Char) : Nat := c.toNat - '0'.toNat

/-- The piece that a name behind a dollar sign stands for. -/
def pieceOf? (isQuoted : Bool) (name : List Char) : Option Piece :=
  match name with
  | ['$'] => some .process
  | ['?'] => some .status
  | ['#'] => some .count
  | ['@'] => some (.parameters false isQuoted)
  | ['*'] => some (.parameters true isQuoted)
  | c :: rest =>
    if (c :: rest).all Char.isDigit then
      some (.parameter ((c :: rest).foldl (fun n c => n * 10 + digit c) 0) isQuoted)
    else if startsName c && rest.all goesOnName then
      some (.value (String.ofList (c :: rest)) isQuoted)
    else none
  | [] => none

/-- The word with what a name of one character stands for. -/
def addName (isQuoted : Bool) (word : Option Word) (c : Char) : Option Word :=
  match pieceOf? isQuoted [c] with
  | some piece => addPiece word piece
  | none => addChar (addChar word '$') c

/-- The character is a name of its own. -/
def isShortName (c : Char) : Bool := ['$', '?', '#', '@', '*'].contains c || c.isDigit

/-- The tokens of a text from a line on, where a word may have been begun already. -/
def tokens (line : Nat) : Mode → Option Word → List Char → List Token
  | .plain, word, [] | .comment, word, [] | .name _ _, word, [] => closeWord line word
  | .braces _ _, _, [] => [.fault .unclosedBraces line]
  | .singleQuotes, _, [] | .doubleQuotes, _, [] => [.fault .unclosedQuotes line]
  | .comment, word, c :: rest =>
    if c = '\n' then .newLine line :: tokens (line + 1) .plain none rest
    else tokens line .comment word rest
  | .singleQuotes, word, c :: rest =>
    if c = '\'' then tokens line .plain word rest
    else tokens (if c = '\n' then line + 1 else line) .singleQuotes (addChar word c) rest
  | .name isQuoted name, word, c :: rest =>
    if rest.head?.any goesOnName then tokens line (.name isQuoted (c :: name)) word rest
    else
      tokens line (.around isQuoted)
        (addPiece word (.value (String.ofList (c :: name).reverse) isQuoted)) rest
  | .braces isQuoted name, word, c :: rest =>
    if c = '\x7d' then
      let piece := (pieceOf? isQuoted name.reverse).getD .nameless
      tokens line (.around isQuoted) (addPiece word piece) rest
    else tokens line (.braces isQuoted (c :: name)) word rest
  | .doubleQuotes, word, '"' :: rest => tokens line .plain word rest
  | .doubleQuotes, word, '\\' :: c :: rest =>
    if c = '\n' then tokens (line + 1) .doubleQuotes word rest
    else if ['$', '"', '\\', '\x60'].contains c then
      tokens line .doubleQuotes (addChar word c) rest
    else tokens line .doubleQuotes (addChar (addChar word '\\') c) rest
  | .doubleQuotes, word, '$' :: '\x7b' :: rest => tokens line (.braces true []) word rest
  | .doubleQuotes, word, '$' :: c :: rest =>
    if startsName c then tokens line (.name true []) word (c :: rest)
    else if isShortName c then tokens line .doubleQuotes (addName true word c) rest
    else tokens line .doubleQuotes (addChar word '$') (c :: rest)
  | .doubleQuotes, word, c :: rest =>
    tokens (if c = '\n' then line + 1 else line) .doubleQuotes (addChar word c) rest
  | .plain, word, '\'' :: rest => tokens line .singleQuotes (some (word.getD [])) rest
  | .plain, word, '"' :: rest => tokens line .doubleQuotes (some (word.getD [])) rest
  | .plain, word, '\\' :: c :: rest =>
    if c = '\n' then tokens (line + 1) .plain word rest
    else tokens line .plain (addChar word c) rest
  | .plain, word, '$' :: '\x7b' :: rest => tokens line (.braces false []) word rest
  | .plain, word, '$' :: c :: rest =>
    if startsName c then tokens line (.name false []) word (c :: rest)
    else if isShortName c then tokens line .plain (addName false word c) rest
    else tokens line .plain (addChar word '$') (c :: rest)
  | .plain, word, '>' :: '>' :: rest =>
    closeWord line word ++ .redirect 1 .appended line :: tokens line .plain none rest
  | .plain, word, '>' :: '&' :: rest =>
    closeWord line word ++ .redirect 1 .joined line :: tokens line .plain none rest
  | .plain, word, '>' :: rest =>
    closeWord line word ++ .redirect 1 .replaced line :: tokens line .plain none rest
  | .plain, word, '&' :: '&' :: rest =>
    closeWord line word ++ .next "\"&&\"" .afterSuccess line :: tokens line .plain none rest
  | .plain, word, '|' :: '|' :: rest =>
    closeWord line word ++ .next "\"||\"" .afterFailure line :: tokens line .plain none rest
  | .plain, word, ';' :: ';' :: _ => closeWord line word ++ [.fault (.unexpected "\";;\"") line]
  | .plain, word, '(' :: _ => closeWord line word ++ [.fault (.unexpected "\"(\"") line]
  | .plain, word, ')' :: _ => closeWord line word ++ [.fault (.unexpected "\")\"") line]
  | .plain, word, ';' :: rest =>
    closeWord line word ++ .next "\";\"" .always line :: tokens line .plain none rest
  | .plain, word, '|' :: rest =>
    closeWord line word ++ .next "\"|\"" .always line :: tokens line .plain none rest
  | .plain, word, '&' :: rest =>
    closeWord line word ++ .next "\"&\"" .always line :: tokens line .plain none rest
  | .plain, word, ' ' :: rest | .plain, word, '\t' :: rest =>
    closeWord line word ++ tokens line .plain none rest
  | .plain, none, '#' :: rest => tokens line .comment none rest
  | .plain, word, '\n' :: rest =>
    closeWord line word ++ .newLine line :: tokens (line + 1) .plain none rest
  | .plain, none, c :: '>' :: '>' :: rest =>
    if c.isDigit then .redirect (digit c) .appended line :: tokens line .plain none rest
    else tokens line .plain (addChar none c) ('>' :: '>' :: rest)
  | .plain, none, c :: '>' :: '&' :: rest =>
    if c.isDigit then .redirect (digit c) .joined line :: tokens line .plain none rest
    else tokens line .plain (addChar none c) ('>' :: '&' :: rest)
  | .plain, none, c :: '>' :: rest =>
    if c.isDigit then .redirect (digit c) .replaced line :: tokens line .plain none rest
    else tokens line .plain (addChar none c) ('>' :: rest)
  | .plain, word, c :: rest => tokens line .plain (addChar word c) rest

/-! ## Commands -/

/-- The redirection of an output to what a word says. -/
def redirection (output : Nat) (target : Target) (word : Word) : Redirection :=
  match target with
  | .replaced => .file output false word
  | .appended => .file output true word
  | .joined => .join output word

/-- What is wrong with a token where a word is missing, and in which line that shows. -/
def Token.instead : Token → Nat × ScriptFault
  | .word _ line => (line, .unexpected "word")
  | .next text _ line => (line, .unexpected text)
  | .newLine line => (line + 1, .unexpected "newline")
  | .fault reason line => (line, reason)
  | .redirect _ _ line => (line, .unexpected "redirection")

/-- The commands of a text in the lines that can be read, and what is wrong in the next line. -/
structure Reading where
  commands : List Command
  fault : Option (Nat × ScriptFault)

/-- Commands that are being read: those of the lines before, those of this line, and the one that is
begun. -/
structure Draft where
  finished : List Command
  started : List Command
  begun : Command

namespace Draft

/-- The reading of a draft that cannot go on. -/
def fail (draft : Draft) (line : Nat) (fault : ScriptFault) : Reading :=
  ⟨draft.finished, some (line, fault)⟩

/-- The draft where the next command begins on the same line. -/
def next (draft : Draft) (condition : Condition) (line : Nat) : Draft :=
  { draft with started := draft.started ++ [draft.begun], begun := .idle condition line }

/-- The draft where the next command begins on a line of its own. -/
def nextLine (draft : Draft) (line : Nat) : Draft :=
  let ended := (draft.started ++ [draft.begun]).map fun command =>
    { command with lineAhead := line }
  ⟨draft.finished ++ ended, [], .idle .always line⟩

/-- The command that is begun waits for words. -/
def isWaiting (draft : Draft) : Bool :=
  draft.begun.isIdle && draft.begun.condition ≠ .always

/-- The draft with a word put to the command that is begun. -/
def addWord (draft : Draft) (word : Word) (line : Nat) : Draft :=
  let begun := draft.begun
  if begun.isIdle ∧ word = [.literal '!'] then
    { draft with begun := { begun with isNegated := true, line := line } }
  else
    let line := if begun.words = [] then line else begun.line
    { draft with begun := { begun with words := begun.words ++ [word], line := line } }

/-- The draft with a redirection put to the command that is begun. -/
def addRedirection (draft : Draft) (redirection : Redirection) (line : Nat) : Draft :=
  let begun := draft.begun
  let line := if begun.isIdle then line else begun.line
  { draft with
    begun := { begun with redirections := begun.redirections ++ [redirection], line := line } }

end Draft

/-- What is read of tokens behind a draft; the last line is told. -/
def read (last : Nat) (draft : Draft) : List Token → Reading
  | [] =>
    if draft.isWaiting then draft.fail last (.unexpected "end of file")
    else ⟨(draft.nextLine last).finished, none⟩
  | .word word line :: rest => read last (draft.addWord word line) rest
  | .redirect output target line :: .word word _ :: rest =>
    read last (draft.addRedirection (redirection output target word) line) rest
  | [.redirect _ _ _] => draft.fail last (.unexpected "end of file")
  | .redirect _ _ _ :: token :: _ => draft.fail token.instead.1 token.instead.2
  | .next text condition line :: rest =>
    if draft.begun.isIdle then draft.fail line (.unexpected text)
    else read last (draft.next condition line) rest
  | .newLine line :: rest =>
    if draft.isWaiting then read last draft rest else read last (draft.nextLine (line + 1)) rest
  | .fault fault line :: _ => draft.fail line fault

/-- What is read of a text. -/
def ofText (text : List Char) : Reading :=
  let found :=
    read (text.count '\n' + 1) ⟨[], [], .idle .always 1⟩ (tokens 1 .plain none text)
  { found with commands := found.commands.filter fun command => !command.isIdle }

end WallpaperRotation.Script
