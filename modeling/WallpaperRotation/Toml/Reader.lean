/-
# Reading TOML documents

A document is a sequence of lines: headers, keys with their values, and comments.  Its faults are
not told apart; a text is a document or it is none.
-/
import WallpaperRotation.Toml.Scalar

namespace WallpaperRotation.Toml

/-! ## Lines -/

/-- What is behind the comment that the text may start with. -/
def behindComment : List Char → List Char
  | '#' :: rest => rest.dropWhile isPlain
  | text => text

/-- What is behind the rest of a line: blanks, a comment and the line's end. -/
def behindLine? (text : List Char) : Option (List Char) :=
  match behindComment (skipSpace text) with
  | [] => some []
  | rest => behindBreak? rest

/-- What is behind blanks, line breaks and comments, at most so many. -/
def skipLines : Nat → List Char → List Char
  | 0, text => text
  | fuel + 1, text =>
    match skipSpace text with
    | '#' :: rest =>
      match behindBreak? (rest.dropWhile isPlain) with
      | some rest => skipLines fuel rest
      | none => rest.dropWhile isPlain
    | rest =>
      match behindBreak? rest with
      | some rest => skipLines fuel rest
      | none => rest

/-- What is behind blanks, line breaks and comments. -/
def skipAll (text : List Char) : List Char := skipLines (text.length + 1) text

/-! ## Values -/

/-- The elements of an array, at most so many, behind the bracket or a comma. -/
def elements? (value : Reader Item) : Nat → Reader (List Item)
  | 0, _ => none
  | fuel + 1, text =>
    match skipAll text with
    | ']' :: rest => some ([], rest)
    | rest => do
      let (first, rest) ← value rest
      match skipAll rest with
      | ']' :: rest => some ([first], rest)
      | ',' :: rest => do
        let (others, rest) ← elements? value fuel rest
        some (first :: others, rest)
      | _ => none

/-- The members of an inline table, at most so many, with those that were read before. -/
def members? (value : Reader Item) : Nat → Members → Reader Members
  | 0, _, _ => none
  | fuel + 1, members, text => do
    let (path, rest) ← key? (depthLimit - 1) text
    let rest ← behindMark? '=' rest
    let (item, rest) ← value (skipSpace rest)
    let key ← path.getLast?
    let members ← addInline path.dropLast key item members
    match skipSpace rest with
    | '}' :: rest => some (members, rest)
    | ',' :: rest => members? value fuel members rest
    | _ => none

/-- A value with at most so many levels below it. -/
def value? : Nat → Reader Item
  | levels, text =>
    match text with
    | [] => none
    | '[' :: rest =>
      match levels with
      | 0 => none
      | levels + 1 =>
        (elements? (value? levels) (rest.length + 1) rest).map fun (elements, rest) =>
          (.array elements, rest)
    | '{' :: rest =>
      match levels with
      | 0 => none
      | levels + 1 =>
        match skipSpace rest with
        | '}' :: rest => some (.table .inline [], rest)
        | _ =>
          (members? (value? levels) (rest.length + 1) [] rest).map fun (members, rest) =>
            (.table .inline members, rest)
    | c :: rest =>
      if c = '"' ∨ c = '\'' then
        (string? (c :: rest)).map fun (text, rest) => (.string text, rest)
      else if c.isDigit ∨ c = '+' ∨ c = '-' then numberOrMoment? (c :: rest)
      else if c = 't' then (behindWord? ['r', 'u', 'e'] rest).map (.boolean true, ·)
      else if c = 'f' then (behindWord? ['a', 'l', 's', 'e'] rest).map (.boolean false, ·)
      else if c = 'i' then (behindWord? ['n', 'f'] rest).map (.float, ·)
      else if c = 'n' then (behindWord? ['a', 'n'] rest).map (.float, ·)
      else none

/-! ## Documents -/

/-- A document as far as it was read: the tables that are finished, and the one whose keys are
being read, with the path of its header. -/
structure Draft where
  root : Members
  path : List String
  /-- The header asks for one more of several tables. -/
  isElement : Bool
  current : Members

/-- The document before anything was read; the first keys belong to the document itself. -/
def Draft.blank : Draft := ⟨[], [], false, []⟩

/-- The finished tables with the current one put in. -/
def Draft.close? (draft : Draft) : Option Members :=
  match draft.path.getLast? with
  | none => some draft.current
  | some key =>
    let table : Item := .table .header draft.current
    extend false
      (fun _ members =>
        if draft.isElement then
          match lookUp key members with
          | none => some (members ++ [(key, .tables [table])])
          | some (.tables elements) =>
            some (replace key (.tables (elements ++ [table])) members)
          | some _ => none
        else addNew key table members)
      draft.path.dropLast .header draft.root

/-- The table under a path of keys, before a header of its own: what other headers put into it,
and the document without it. -/
def reserve? (root : Members) (path : List String) : Option (Members × Members) := do
  let key ← path.getLast?
  let found ← holder path.dropLast root
  match lookUp key found with
  | none => some ([], ← extend false (fun _ members => some members) path.dropLast .header root)
  | some (.table .implied inner) =>
    some (inner, ← extend false
      (fun _ members => some (members.filter fun member => member.1 ≠ key))
      path.dropLast .header root)
  | some _ => none
where
  /-- The members of the table under a path of keys; none where there is no table yet. -/
  holder : List String → Members → Option Members
    | [], members => some members
    | key :: path, members =>
      match lookUp key members with
      | none => some []
      | some (.table .inline _) => none
      | some (.table _ inner) => holder path inner
      | some (.tables elements) =>
        match elements.getLast? with
        | some (.table _ inner) => holder path inner
        | _ => none
      | some _ => none

/-- The key under a path may stand for several tables. -/
def allowsElement (root : Members) (path : List String) : Bool :=
  match path.getLast?, reserve?.holder path.dropLast root with
  | some key, some members =>
    match lookUp key members with
    | none => true
    | some (.tables _) => true
    | some _ => false
  | _, _ => false

/-- The draft behind a header, and the rest of the text. -/
def header? (draft : Draft) (text : List Char) : Option (Draft × List Char) := do
  let isElement := text.take 2 = ['[', '[']
  let (path, rest) ← key? (depthLimit - 1) (text.drop (if isElement then 2 else 1))
  let rest ← behindMark? ']' rest
  let rest ← if isElement then behindMark? ']' rest else some rest
  let rest ← behindLine? rest
  let root ← draft.close?
  if isElement then
    if allowsElement root path then some (⟨root, path, true, []⟩, rest) else none
  else
    let (inner, root) ← reserve? root path
    some (⟨root, path, false, inner⟩, rest)

/-- The draft behind a key and its value, and the rest of the text. -/
def entry? (draft : Draft) (text : List Char) : Option (Draft × List Char) := do
  let (path, rest) ← key? (depthLimit - 1) text
  let rest ← behindMark? '=' rest
  let (item, rest) ← value? (depthLimit - 1) (skipSpace rest)
  let rest ← behindLine? rest
  let key ← path.getLast?
  let current ← addDotted path.dropLast key item .header draft.current
  some ({ draft with current := current }, rest)

/-- The draft behind the rest of a document, in at most so many lines. -/
def lines? : Nat → Draft → List Char → Option Draft
  | 0, _, _ => none
  | fuel + 1, draft, text =>
    match skipSpace text with
    | [] => some draft
    | '#' :: rest => do lines? fuel draft (← behindLine? ('#' :: rest))
    | '[' :: rest => do
      let (draft, rest) ← header? draft ('[' :: rest)
      lines? fuel draft rest
    | rest =>
      match behindBreak? rest with
      | some rest => lines? fuel draft rest
      | none => do
        let (draft, rest) ← entry? draft rest
        lines? fuel draft rest

/-- The document that a text holds, behind a byte order mark that it may start with. -/
def parse? (text : String) : Option Members := do
  let text :=
    match text.toList with
    | c :: rest => if c.toNat = 0xFEFF then rest else c :: rest
    | [] => []
  let draft ← lines? (text.length + 1) Draft.blank text
  draft.close?

end WallpaperRotation.Toml
