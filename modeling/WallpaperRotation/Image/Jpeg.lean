/-
# Sizes of JPEG images

A JPEG is a sequence of markers, most of them with a segment whose first two bytes give its length.
The size stands in the frame header; an image is taken for one once the header of a scan has been
read.
-/
import WallpaperRotation.Image.Field

namespace WallpaperRotation.Image.Jpeg

/-- The data of a segment, and what is behind it. -/
def segment? (bytes : Bytes) : Option (Bytes × Bytes) := do
  let (length, rest) ← big? 2 bytes
  if length < 2 then none else split? (length - 2) rest

/-! ## Frames -/

/-- What the frame header says: the size and the identifiers of the colour components. -/
structure Frame where
  size : Size
  components : List Nat

/-- The numbers of samples across and down that a component may have for those of the others. -/
def samplingFits (across down : Nat) : Bool :=
  [1, 2, 4, 8].contains across && [1, 2, 3, 4, 8].contains down

/-- The identifiers of so many components, none of them out of range. -/
def components? : Nat → Bytes → Option (List Nat)
  | 0, rest => if rest = [] then some [] else none
  | count + 1, bytes => do
    let (id, rest) ← big? 1 bytes
    let (sampling, rest) ← big? 1 rest
    let (table, rest) ← big? 1 rest
    if samplingFits (sampling / 16) (sampling % 16) ∧ table < 4 then
      (components? count rest).map (id :: ·)
    else none

/-- The frame that a segment describes. -/
def frame? (data : Bytes) : Option Frame := do
  let (precision, rest) ← big? 1 data
  let (height, rest) ← big? 2 rest
  let (width, rest) ← big? 2 rest
  let (count, rest) ← big? 1 rest
  let ids ← components? count rest
  if precision = 8 ∧ width ≠ 0 ∧ height ≠ 0 ∧ 1 ≤ count ∧ count ≤ 4 then
    some ⟨⟨width, height⟩, ids⟩
  else none

/-! ## Tables -/

/-- The quantisation tables of a segment are whole. -/
def tablesHold : Nat → Bytes → Bool
  | _, [] => true
  | 0, _ :: _ => false
  | fuel + 1, info :: rest =>
    let cells := 64 * (info.toNat / 16 + 1)
    info.toNat / 16 ≤ 1 && info.toNat % 16 < 4 && cells ≤ rest.length &&
      tablesHold fuel (rest.drop cells)

/-- The longest code of a symbol, in bits. -/
def longestCode : Nat := 16

/-- Codes in these numbers for each length, from some length on, are all different when the first
of them is `code`, and none of them is made up of ones alone.  Lengths behind the last one in use
do not count. -/
def codesFit (code : Nat) (length : Nat) : List Nat → Bool
  | [] => true
  | count :: counts =>
    (counts.all (· = 0) && count = 0) ||
      (code + count < Nat.pow 2 length && codesFit (2 * (code + count)) (length + 1) counts)

/-- The code tables of a segment are whole, and each is one for numbers of bits up to fifteen or
for lengths of runs. -/
def codesHold : Nat → Bytes → Bool
  | _, [] => true
  | 0, _ :: _ => false
  | fuel + 1, info :: rest =>
    let counts := (rest.take longestCode).map UInt8.toNat
    let total := counts.foldl (· + ·) 0
    let symbols := (rest.drop longestCode).take total
    info.toNat / 16 ≤ 1 && info.toNat % 16 ≤ 3 && total ≤ 256 &&
      total + longestCode ≤ rest.length && codesFit 0 1 counts &&
      (info.toNat / 16 = 1 || symbols.all (·.toNat ≤ 15)) &&
      codesHold fuel (rest.drop (longestCode + total))

/-! ## Scans -/

/-- The components that a scan header names belong to the frame and are named once. -/
def scanNames (frame : Frame) (seen : List Nat) : Nat → Bytes → Option Bytes
  | 0, rest => some rest
  | count + 1, bytes => do
    let (id, rest) ← big? 1 bytes
    let (_, rest) ← big? 1 rest
    if frame.components.contains id ∧ ¬seen.contains id then
      scanNames frame (id :: seen) count rest
    else none

/-- The data of a segment is the header of a scan of the frame. -/
def isScan (frame : Frame) (data : Bytes) : Bool :=
  match data with
  | [] => false
  | count :: rest =>
    1 ≤ count.toNat && count.toNat ≤ 4 &&
      match scanNames frame [] count.toNat rest with
      | some [first, last, approximation] =>
        first.toNat ≤ 63 && last.toNat ≤ 63 && approximation.toNat / 16 ≤ 13 &&
          approximation.toNat % 16 ≤ 13
      | _ => false

/-! ## Data of applications -/

/-- The bytes of the name that starts the data on the file's format. -/
def formatNameLength : Nat := 5

/-- What is behind a segment with data on the format.  The name is read whole where the segment,
with its length, is longer than the name. -/
def behindFormat? (bytes : Bytes) : Option Bytes := do
  let (length, rest) ← big? 2 bytes
  if length < 2 then none
  else if length ≤ formatNameLength then some (rest.drop (length - 2))
  else
    let (_, rest) ← split? formatNameLength rest
    some (rest.drop (length - 2 - formatNameLength))

/-- The name that starts the data on colours, and the bytes of the data before their one choice. -/
def colourName : List Nat := letters "Adobe"
def bytesBeforeChoice : Nat := 11

/-- What is behind a segment with data on colours, which are read on even where the segment ends
before them. -/
def behindColours? (bytes : Bytes) : Option Bytes := do
  let (length, rest) ← big? 2 bytes
  match behind? colourName rest with
  | none => some (rest.drop (length - 2))
  | some _ =>
    let (choice, rest) ← big? 1 (rest.drop bytesBeforeChoice)
    if choice ≤ 2 then some (rest.drop (length - (bytesBeforeChoice + 3))) else none

/-- The name that starts a further part of a description that is too long for one segment. -/
def partName : List Nat := letters "http://ns.adobe.com/xmp/extension/" ++ [0]

/-- The bytes that tell which part it is. -/
def partHeaderLength : Nat := 40

/-- A further part of a description, if the data are one, tells which part it is. -/
def partHolds (data : Bytes) : Bool :=
  match behind? partName data with
  | none => true
  | some [] => true
  | some rest => partHeaderLength ≤ rest.length

/-! ## Markers -/

/-- The next marker, knowing the byte before and whether it fills the room before a marker; filling
is started by the byte FF and consists of that byte and of zeros. -/
def marker? (previous : UInt8) (filling : Bool) : Bytes → Option (Nat × Bytes)
  | [] => none
  | byte :: rest =>
    if (byte = 0xFF ∨ byte = 0) ∧ (filling ∨ previous = 0xFF) then marker? byte true rest
    else if previous = 0xFF then some (byte.toNat, rest)
    else marker? byte false rest

/-- The marker announces a frame whose size can be read. -/
def isFrame (marker : Nat) : Bool :=
  marker = 0xC0 || marker = 0xC1 || marker = 0xC2

/-- The marker announces what cannot be read, or an end before any scan. -/
def isRefused (marker : Nat) : Bool :=
  marker = 0xCC || marker = 0xD9 || marker = 0xDC

/-- What is behind the segment of a marker that tells nothing of the size. -/
def behindSegment? (marker : Nat) (bytes : Bytes) : Option Bytes :=
  if isRefused marker then none
  else if marker = 0xE0 then behindFormat? bytes
  else if marker = 0xEE then behindColours? bytes
  else do
    let (data, rest) ← segment? bytes
    let holds :=
      if marker = 0xDB then tablesHold data.length data
      else if marker = 0xC4 then codesHold data.length data
      else if marker = 0xDD then data.length = 2
      else if marker = 0xE1 then partHolds data
      else true
    if holds then some rest else none

/-- Reads at most so many markers, knowing the frame, until a scan begins. -/
def scan : Nat → Option Frame → Bytes → Option Size
  | 0, _, _ => none
  | fuel + 1, frame, bytes => do
    let (marker, rest) ← marker? 0 false bytes
    if isFrame marker then
      let (data, rest) ← segment? rest
      if frame.isSome then none else scan fuel (some (← frame? data)) rest
    else if marker = 0xDA then
      let (data, _) ← segment? rest
      let frame ← frame
      if isScan frame data then some frame.size else none
    else scan fuel frame (← behindSegment? marker rest)

/-- The size of a JPEG image. -/
def size? (bytes : Bytes) : Option Size := do
  let rest ← behind? [0xFF, 0xD8] bytes
  scan (rest.length + 1) none rest

end WallpaperRotation.Image.Jpeg
