/-
# Reading JSON values of known shapes

Strings, natural numbers, values that may be missing, lists, and records.  A record is written as
an object or as the list of its fields; members of other names are passed over.
-/
import WallpaperRotation.Json.Scan

namespace WallpaperRotation.Json

/-! ## Scalars -/

/-- A string. -/
def string : Reader String := fun text =>
  match skipSpace text with
  | '"' :: rest => (stringBody true rest).map fun (chars, rest) => (String.ofList chars, rest)
  | text => .error (mismatch text)

/-- A natural number up to a greatest one. -/
def natural (greatest : Nat) : Reader Nat := fun text =>
  match skipSpace text with
  | c :: rest =>
    if startsNumber c then do
      match ← natural? (c :: rest) with
      | (some n, rest) => if n ≤ greatest then .ok (n, rest) else .error .unfit
      | (none, _) => .error .unfit
    else .error (mismatch (c :: rest))
  | [] => .error .cutOff

/-- A value, or the word for none. -/
def optional {α : Type} (value : Reader α) : Reader (Option α) := fun text =>
  match skipSpace text with
  | 'n' :: rest => (behindWord ['u', 'l', 'l'] rest).map fun rest => (none, rest)
  | text => (value text).map fun (found, rest) => (some found, rest)

/-- A value from another one, which may not be fit for it. -/
def restrict {α β : Type} (value : Reader α) (convert : α → Option β) : Reader β := fun text => do
  let (found, rest) ← value text
  match convert found with
  | some converted => .ok (converted, rest)
  | none => .error .unfit

/-! ## Lists -/

/-- The elements of a list behind the first one, at most so many. -/
def moreElements {α : Type} (element : Reader α) : Nat → Reader (List α)
  | 0, _ => .error .malformed
  | fuel + 1, text =>
    match skipSpace text with
    | [] => .error .cutOff
    | ']' :: rest => .ok ([], rest)
    | ',' :: rest =>
      match skipSpace rest with
      | [] => .error .cutOff
      | ']' :: _ => .error .malformed
      | rest => do
        let (first, rest) ← element rest
        let (others, rest) ← moreElements element fuel rest
        .ok (first :: others, rest)
    | _ => .error .malformed

/-- A list. -/
def list {α : Type} (element : Reader α) : Reader (List α) := fun text =>
  match skipSpace text with
  | '[' :: rest =>
    match skipSpace rest with
    | ']' :: rest => .ok ([], rest)
    | [] => .error .cutOff
    | rest => do
      let (first, rest) ← element rest
      let (others, rest) ← moreElements element (rest.length + 1) rest
      .ok (first :: others, rest)
  | text => .error (mismatch text)

/-! ## Records -/

/-- A field of a record that is being filled in. -/
structure Field (δ : Type) where
  name : String
  isSet : δ → Bool
  read : δ → Reader δ

/-- A record that is filled in field by field. -/
structure Shape (δ α : Type) where
  blank : δ
  fields : List (Field δ)
  /-- The record, unless a field is missing that has to be there. -/
  finish : δ → Option α

/-- A field that is kept as an option while the record is filled in. -/
def Field.of {δ β : Type} (name : String) (get : δ → Option β) (set : δ → β → δ)
    (value : Reader β) : Field δ where
  name := name
  isSet draft := (get draft).isSome
  read draft text := (value text).map fun (found, rest) => (set draft found, rest)

/-- The record with these fields. -/
def Shape.done {δ α : Type} (shape : Shape δ α) (draft : δ) : Except Fault α :=
  match shape.finish draft with
  | some record => .ok record
  | none => .error .unfit

/-- The members of an object from a name on, at most so many. -/
def members {δ α : Type} (shape : Shape δ α) : Nat → δ → Reader δ
  | 0, _, _ => .error .malformed
  | fuel + 1, draft, text =>
    match text with
    | [] => .error .cutOff
    | '"' :: rest => do
      let (name, rest) ← stringBody true rest
      let field := shape.fields.find? fun field => field.name = String.ofList name
      if field.any fun field => field.isSet draft then throw .unfit
      match skipSpace rest with
      | [] => .error .cutOff
      | ':' :: rest => do
        let (draft, rest) ←
          match field with
          | some field => field.read draft rest
          | none => (skipValue rest).map fun rest => (draft, rest)
        match skipSpace rest with
        | [] => .error .cutOff
        | '}' :: rest => .ok (draft, rest)
        | ',' :: rest => members shape fuel draft (skipSpace rest)
        | _ => .error .malformed
      | _ => .error .malformed
    | _ => .error .malformed

/-- The fields of a record written as a list, from the first one that is still to come. -/
def positions {δ : Type} : List (Field δ) → Bool → δ → Reader δ
  | [], _, draft, text => .ok (draft, text)
  | field :: fields, isFirst, draft, text =>
    match skipSpace text with
    | [] => .error .cutOff
    | ']' :: rest => .ok (draft, ']' :: rest)
    | c :: rest =>
      if isFirst then do
        let (draft, rest) ← field.read draft (c :: rest)
        positions fields false draft rest
      else if c = ',' then
        match skipSpace rest with
        | [] => .error .cutOff
        | ']' :: _ => .error .malformed
        | rest => do
          let (draft, rest) ← field.read draft rest
          positions fields false draft rest
      else .error .malformed

/-- A record. -/
def record {δ α : Type} (shape : Shape δ α) : Reader α := fun text =>
  match skipSpace text with
  | '{' :: rest =>
    match skipSpace rest with
    | '}' :: rest => do .ok (← shape.done shape.blank, rest)
    | rest => do
      let (draft, rest) ← members shape (rest.length + 1) shape.blank rest
      .ok (← shape.done draft, rest)
  | '[' :: rest => do
    let (draft, rest) ← positions shape.fields true shape.blank rest
    let found ← shape.done draft
    match skipSpace rest with
    | ']' :: rest => .ok (found, rest)
    | [] => .error .cutOff
    | _ => .error .malformed
  | text => .error (mismatch text)

/-! ## Whole texts -/

/-- The value that a text holds, with nothing but blanks around it. -/
def parse {α : Type} (value : Reader α) (text : String) : Except Fault α := do
  let (found, rest) ← value text.toList
  if skipSpace rest = [] then .ok found else .error .malformed

end WallpaperRotation.Json
