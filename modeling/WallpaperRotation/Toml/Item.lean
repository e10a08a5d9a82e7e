/-
# Items of a TOML document

What a key can stand for, and how tables are extended while a document is read.  Each table
remembers how it came about, as that decides who may add to it: a table with a header of its own is
closed to dotted keys, one made by dotted keys has no header, and an inline table is complete.
-/

namespace WallpaperRotation.Toml

/-! ## Items -/

/-- How a table came about. -/
inductive Origin where
  /-- By a header of its own, or as the document itself. -/
  | header
  /-- By the header of a table below it. -/
  | implied
  /-- By a dotted key. -/
  | dotted
  /-- Between braces. -/
  | inline
  deriving DecidableEq, Repr

/-- What a key stands for.  Numbers with a fraction and dates are only known to be there. -/
inductive Item where
  | string (text : String)
  | integer (n : Int)
  | float
  | boolean (b : Bool)
  | moment
  | array (elements : List Item)
  | table (origin : Origin) (members : List (String × Item))
  /-- Tables that share a header, each with its members. -/
  | tables (elements : List Item)

/-- The keys of a table with what they stand for. -/
abbrev Members := List (String × Item)

/-- What a key stands for in a table. -/
def lookUp (key : String) (members : Members) : Option Item :=
  (members.find? fun member => member.1 = key).map Prod.snd

/-- The members with what a key stands for replaced. -/
def replace (key : String) (item : Item) (members : Members) : Members :=
  members.map fun member => if member.1 = key then (key, item) else member

/-- The members with one more key; `none` when the key is taken. -/
def addNew (key : String) (item : Item) (members : Members) : Option Members :=
  match lookUp key members with
  | none => some (members ++ [(key, item)])
  | some _ => none

/-! ## Extending tables -/

/-- Changes the table under a path of keys, making the tables on the way; `byKey` tells the tables
of a dotted key from those of a header. -/
def extend (byKey : Bool) (change : Origin → Members → Option Members) :
    List String → Origin → Members → Option Members
  | [], origin, members => change origin members
  | key :: path, _, members =>
    match lookUp key members with
    | none => do
      let origin := if byKey then .dotted else .implied
      let inner ← extend byKey change path origin []
      some (members ++ [(key, .table origin inner)])
    | some (.table origin inner) =>
      if origin = .inline ∨ (byKey ∧ origin = .header) then none
      else do
        let inner ← extend byKey change path origin inner
        some (replace key (.table origin inner) members)
    | some (.tables elements) =>
      match elements.getLast? with
      | some (.table origin inner) => do
        let inner ← extend byKey change path origin inner
        some (replace key (.tables (elements.dropLast ++ [.table origin inner])) members)
      | _ => none
    | some _ => none

/-- Adds what a dotted key stands for to a table. -/
def addDotted (path : List String) (key : String) (item : Item) (origin : Origin)
    (members : Members) : Option Members :=
  extend true
    (fun origin members =>
      if (origin = .dotted) = (path = []) then none else addNew key item members)
    path origin members

/-! ## Inline tables -/

/-- Changes the table under the path of a dotted key inside an inline table. -/
def extendInline (change : Origin → Members → Option Members) :
    List String → Origin → Members → Option Members
  | [], origin, members => change origin members
  | key :: path, _, members =>
    match lookUp key members with
    | none => do
      let inner ← extendInline change path .dotted []
      some (members ++ [(key, .table .dotted inner)])
    | some (.table .dotted inner) => do
      let inner ← extendInline change path .dotted inner
      some (replace key (.table .dotted inner) members)
    | some _ => none

/-- Adds what a dotted key stands for to an inline table. -/
def addInline (path : List String) (key : String) (item : Item) (members : Members) :
    Option Members :=
  extendInline
    (fun origin members =>
      if (origin = .dotted) = (path = []) then none else addNew key item members)
    path .inline members

end WallpaperRotation.Toml
