/-
# Sizes of TIFF images

A TIFF tells the order of its bytes and where its first directory is, in which every setting of the
image stands under a number.  An image is taken for one when the settings go together and its
colours can be shown.
-/
import WallpaperRotation.Image.Field

namespace WallpaperRotation.Image.Tiff

/-! ## Directories -/

/-- The order of the bytes of a number. -/
inductive ByteOrder where
  | lowFirst
  | highFirst

/-- A number of so many bytes. -/
def ByteOrder.number? (order : ByteOrder) (count : Nat) (bytes : Bytes) : Option (Nat × Bytes) :=
  match order with
  | .lowFirst => little? count bytes
  | .highFirst => big? count bytes

/-- A setting: its number, the kind and the number of its values, and the four bytes that hold the
values or tell where they are. -/
structure Setting where
  tag : Nat
  kind : Nat
  count : Nat
  field : Bytes

/-- So many settings, and what is behind them. -/
def settings? (order : ByteOrder) : Nat → Bytes → Option (List Setting × Bytes)
  | 0, bytes => some ([], bytes)
  | count + 1, bytes => do
    let (tag, rest) ← order.number? 2 bytes
    let (kind, rest) ← order.number? 2 rest
    let (values, rest) ← order.number? 4 rest
    let (field, rest) ← split? 4 rest
    let (others, rest) ← settings? order count rest
    some (⟨tag, kind, values, field⟩ :: others, rest)

/-- A file with its first directory. -/
structure Directory where
  order : ByteOrder
  bytes : Bytes
  settings : List Setting

/-- The first directory of a file. -/
def directory? (bytes : Bytes) : Option Directory := do
  let (order, rest) ←
    match behind? (letters "II") bytes, behind? (letters "MM") bytes with
    | some rest, _ => some (ByteOrder.lowFirst, rest)
    | none, some rest => some (ByteOrder.highFirst, rest)
    | none, none => none
  let (version, rest) ← order.number? 2 rest
  let (offset, _) ← order.number? 4 rest
  let (count, rest) ← order.number? 2 (bytes.drop offset)
  let (settings, rest) ← settings? order count rest
  let _ ← order.number? 4 rest
  if version = 42 then some ⟨order, bytes, settings⟩ else none

/-! ## Values -/

/-- The bytes of a value of a kind of natural numbers. -/
def valueLength? (kind : Nat) : Option Nat :=
  match kind with
  | 3 => some 2
  | 4 | 13 => some 4
  | _ => none

/-- So many numbers, each of so many bytes. -/
def numbers? (order : ByteOrder) (length : Nat) : Nat → Bytes → Option (List Nat)
  | 0, _ => some []
  | count + 1, bytes => do
    let (n, rest) ← order.number? length bytes
    (numbers? order length count rest).map (n :: ·)

/-- The values of a setting; `some none` when there is no such setting. -/
def Directory.values? (directory : Directory) (tag : Nat) : Option (Option (List Nat)) :=
  match directory.settings.reverse.find? fun setting => setting.tag = tag with
  | none => some none
  | some setting => do
    let length ← valueLength? setting.kind
    let place ←
      if length * setting.count ≤ 4 then some setting.field
      else do
        let (offset, _) ← directory.order.number? 4 setting.field
        some (directory.bytes.drop offset)
    if setting.count > directory.bytes.length then none
    else (numbers? directory.order length setting.count place).map some

/-- The one value of a setting, or another one where there is no such setting. -/
def Directory.value? (directory : Directory) (tag : Nat) (other : Option Nat) : Option Nat := do
  match ← directory.values? tag with
  | none => other
  | some [value] => some value
  | some _ => none

/-- There is a setting of this number. -/
def Directory.has (directory : Directory) (tag : Nat) : Bool :=
  directory.settings.any fun setting => setting.tag = tag

/-! ## Settings -/

/-- The numbers of the settings. -/
def widthTag : Nat := 256
def heightTag : Nat := 257
def bitsTag : Nat := 258
def compressionTag : Nat := 259
def coloursTag : Nat := 262
def stripOffsetsTag : Nat := 273
def samplesTag : Nat := 277
def rowsTag : Nat := 278
def stripLengthsTag : Nat := 279
def planesTag : Nat := 284
def predictorTag : Nat := 317
def tileWidthTag : Nat := 322
def tileHeightTag : Nat := 323
def tileOffsetsTag : Nat := 324
def tileLengthsTag : Nat := 325
def formatTag : Nat := 339

/-- The number of parts of a length that cover a whole. -/
def parts (whole part : Nat) : Nat := (whole + part - 1) / part

/-- The pieces in which the pixels are kept, strips or tiles, are as many as cover the image. -/
def piecesHold (directory : Directory) (size : Size) : Bool :=
  let sameCount (offsets lengths : Nat) (count : Nat) : Option Bool := do
    let places ← (← directory.values? offsets)
    let counts ← (← directory.values? lengths)
    some (places.length = counts.length && places.length = count)
  let held : Option Bool :=
    match directory.has stripLengthsTag, directory.has stripOffsetsTag,
      directory.has tileLengthsTag, directory.has tileOffsetsTag with
    | true, true, false, false => do
      let rows ← directory.value? rowsTag (some size.height)
      if rows = 0 then none
      else sameCount stripOffsetsTag stripLengthsTag (parts size.height rows)
    | false, false, true, true => do
      let across ← directory.value? tileWidthTag none
      let down ← directory.value? tileHeightTag none
      if across = 0 ∨ down = 0 then none
      else
        sameCount tileOffsetsTag tileLengthsTag
          (parts size.width across * parts size.height down)
    | _, _, _, _ => none
  held = some true

/-- Colours of a kind, with so many samples of so many bits, can be shown. -/
def coloursShow (colours samples bits : Nat) : Bool :=
  match colours with
  | 0 | 1 => samples = 1 && [1, 8, 16].contains bits
  | 2 => (samples = 3 || samples = 4) && [8, 16, 32].contains bits
  | 5 => samples = 4 && [8, 16].contains bits
  | _ => false

/-- The samples of so many bits have the format that is usual for them. -/
def formatShows (bits : Nat) : Option (List Nat) → Bool
  | none => true
  | some formats =>
    formats ≠ [] && formats.all fun format =>
      (format = 1 && bits ≤ 16) || (format = 3 && bits = 32)

/-- The size of a TIFF image. -/
def size? (bytes : Bytes) : Option Size := do
  let directory ← directory? bytes
  let width ← directory.value? widthTag none
  let height ← directory.value? heightTag none
  let colours ← directory.value? coloursTag none
  let _ ← directory.value? compressionTag (some 1)
  let samples ← directory.value? samplesTag (some 1)
  let formats ← directory.values? formatTag
  let bits := (← directory.values? bitsTag).getD [1]
  let predictor ← directory.value? predictorTag (some 1)
  let layout ← directory.value? planesTag (some 1)
  let depth ← bits.head?
  let size : Size := ⟨width, height⟩
  if width ≠ 0 ∧ height ≠ 0 ∧ (bits.length = samples ∨ bits.length = 1) ∧
      bits.all (· = depth) ∧ 1 ≤ predictor ∧ predictor ≤ 3 ∧ layout = 1 ∧
      piecesHold directory size ∧ coloursShow colours samples depth ∧
      formatShows depth formats then
    some size
  else none

end WallpaperRotation.Image.Tiff
