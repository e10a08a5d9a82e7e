/-
# Writing JSON values

Values are written over several lines, two blanks deeper for each list or object around them.
Characters beyond ASCII stand for themselves.
-/

namespace WallpaperRotation.Json

/-- A value to be written. -/
inductive Value where
  | null
  | natural (n : Nat)
  | string (text : String)
  | list (elements : List Value)
  | object (members : List (String × Value))

/-- The lower case hexadecimal digit of a number below sixteen. -/
def hexDigit (n : Nat) : Char :=
  if n < 10 then Char.ofNat (48 + n) else Char.ofNat (87 + n)

/-- The form of a character inside a string. -/
def quoteChar (c : Char) : List Char :=
  if c = '"' then ['\\', '"']
  else if c = '\\' then ['\\', '\\']
  else if c = '\x08' then ['\\', 'b']
  else if c = '\x0c' then ['\\', 'f']
  else if c = '\n' then ['\\', 'n']
  else if c = '\r' then ['\\', 'r']
  else if c = '\t' then ['\\', 't']
  else if c.toNat < 0x20 then
    ['\\', 'u', '0', '0', hexDigit (c.toNat / 16), hexDigit (c.toNat % 16)]
  else [c]

/-- A text between quotes. -/
def quote (text : String) : List Char :=
  '"' :: text.toList.flatMap quoteChar ++ ['"']

/-- A new line so many levels deep. -/
def lineBreak (depth : Nat) : List Char :=
  '\n' :: List.replicate (2 * depth) ' '

mutual

/-- A value so many levels deep. -/
def Value.render (depth : Nat) : Value → List Char
  | .null => ['n', 'u', 'l', 'l']
  | .natural n => (toString n).toList
  | .string text => quote text
  | .list [] => ['[', ']']
  | .list (element :: elements) =>
    '[' :: lineBreak (depth + 1) ++ element.render (depth + 1) ++
      renderElements (depth + 1) elements ++ lineBreak depth ++ [']']
  | .object [] => ['{', '}']
  | .object ((name, value) :: members) =>
    '{' :: lineBreak (depth + 1) ++ quote name ++ ':' :: ' ' :: value.render (depth + 1) ++
      renderMembers (depth + 1) members ++ lineBreak depth ++ ['}']

/-- The elements behind the first one. -/
def renderElements (depth : Nat) : List Value → List Char
  | [] => []
  | element :: elements =>
    ',' :: lineBreak depth ++ element.render depth ++ renderElements depth elements

/-- The members behind the first one. -/
def renderMembers (depth : Nat) : List (String × Value) → List Char
  | [] => []
  | (name, value) :: members =>
    ',' :: lineBreak depth ++ quote name ++ ':' :: ' ' :: value.render depth ++
      renderMembers depth members

end

/-- A string is written between quotes. -/
theorem Value.render_string (depth : Nat) (text : String) :
    (Value.string text).render depth = quote text := by
  rw [Value.render]

/-- Nothing is written behind the last element. -/
theorem renderElements_nil (depth : Nat) : renderElements depth [] = [] := by
  rw [renderElements]

/-- Nothing is written behind the last member. -/
theorem renderMembers_nil (depth : Nat) : renderMembers depth [] = [] := by
  rw [renderMembers]

/-- The text of a value, without a line break at its end. -/
def Value.text (value : Value) : String :=
  String.ofList (value.render 0)

end WallpaperRotation.Json
