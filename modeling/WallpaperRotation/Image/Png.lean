/-
# Sizes of PNG images

A PNG is a signature and a sequence of chunks, each with its length, its type, its data and a
checksum.  The first chunk holds the size; an image is taken for one once a chunk of image data
begins, if the chunks before it can stand there and a line of the image is not too long.
-/
import WallpaperRotation.Checksum.Crc32
import WallpaperRotation.Image.Field

namespace WallpaperRotation.Image.Png

/-! ## Chunks -/

/-- The bytes that every PNG starts with. -/
def signature : List Nat := [0x89, 0x50, 0x4E, 0x47, 0x0D, 0x0A, 0x1A, 0x0A]

/-- A chunk: its type, its data, and whether its checksum is right. -/
structure Chunk where
  kind : List Nat
  data : Bytes
  isIntact : Bool

/-- A whole chunk, and what is behind it. -/
def chunk? (bytes : Bytes) : Option (Chunk × Bytes) := do
  let (length, rest) ← big? 4 bytes
  let (guarded, rest) ← split? (4 + length) rest
  let (sum, rest) ← big? 4 rest
  let kind := (guarded.take 4).map UInt8.toNat
  some (⟨kind, guarded.drop 4, (Crc32.checksum guarded).toNat = sum⟩, rest)

/-- Image data begins: the length and the type of the chunk are there, whatever is behind them. -/
def isDataStart (bytes : Bytes) : Bool :=
  ((bytes.drop 4).take 4).map UInt8.toNat = letters "IDAT"

/-- Nobody who does not know the chunk may pass over it: its type starts with a capital letter. -/
def Chunk.isCritical (chunk : Chunk) : Bool :=
  chunk.kind.head?.any fun letter => letter / 32 % 2 = 0

/-! ## The header -/

/-- What the first chunk tells: the size, the kind of colours, and the bits of each of them. -/
structure Header where
  size : Size
  depth : Nat
  colour : Nat

/-- The kind of colours allows so many bits for each of them. -/
def depthFits (colour depth : Nat) : Bool :=
  match colour with
  | 0 => [1, 2, 4, 8, 16].contains depth
  | 2 => [8, 16].contains depth
  | 3 => [1, 2, 4, 8].contains depth
  | 4 => [8, 16].contains depth
  | 6 => [8, 16].contains depth
  | _ => false

/-- The header in the data of the first chunk. -/
def header? (data : Bytes) : Option Header := do
  let (width, rest) ← big? 4 data
  let (height, rest) ← big? 4 rest
  let (depth, rest) ← big? 1 rest
  let (colour, rest) ← big? 1 rest
  let (compression, rest) ← big? 1 rest
  let (filter, rest) ← big? 1 rest
  let (interlace, rest) ← big? 1 rest
  if rest = [] ∧ width ≠ 0 ∧ height ≠ 0 ∧ depthFits colour depth ∧ compression = 0 ∧ filter = 0 ∧
      interlace ≤ 1 then
    some ⟨⟨width, height⟩, depth, colour⟩
  else none

/-! ## Chunks before the image data -/

/-- What the chunks before the image data told so far. -/
structure Preamble where
  hasPalette : Bool
  /-- Some colour is transparent. -/
  hasTransparency : Bool
  /-- The number of frames that were announced. -/
  frames : Nat
  /-- The bytes that were kept. -/
  kept : Nat

/-- The data announces the next frame of an animation, and one that covers the whole image. -/
def isFrame (size : Size) (number : Nat) (data : Bytes) : Bool :=
  let fields : Option Bool := do
    let (sequence, rest) ← big? 4 data
    let (width, rest) ← big? 4 rest
    let (height, rest) ← big? 4 rest
    let (left, rest) ← big? 4 rest
    let (top, rest) ← big? 4 rest
    let (_, rest) ← split? 4 rest
    let (disposal, rest) ← big? 1 rest
    let (blending, rest) ← big? 1 rest
    some (sequence = number && width = size.width && height = size.height && left = 0 &&
      top = 0 && disposal ≤ 2 && blending ≤ 1 && rest = [])
  fields = some true

/-- Data of this length tell which colours are transparent. -/
def tellsTransparency (header : Header) (hasPalette : Bool) (length : Nat) : Bool :=
  length ≤ 256 &&
    match header.colour with
    | 0 => 2 ≤ length
    | 2 => 6 ≤ length
    | 3 => 1 ≤ length && hasPalette
    | _ => false

/-- The types of chunks with texts, whose data are kept. -/
def textKinds : List (List Nat) := [letters "tEXt", letters "zTXt", letters "iTXt"]

/-- What is known behind a chunk; `none` when it cannot stand before the image data.  Chunks that
are broken or that tell nothing are passed over if they are not critical. -/
def Preamble.after? (preamble : Preamble) (header : Header) (chunk : Chunk) : Option Preamble :=
  let kept := preamble.kept + chunk.data.length
  if chunk.kind = letters "PLTE" then
    if chunk.isIntact ∧ !preamble.hasPalette ∧ 3 ≤ chunk.data.length ∧
        chunk.data.length ≤ 768 then
      some { preamble with hasPalette := true, kept := kept }
    else none
  else if chunk.isCritical ∨ chunk.kind = letters "fdAT" then none
  else if !chunk.isIntact then some preamble
  else if chunk.kind = letters "fcTL" then
    if isFrame header.size preamble.frames chunk.data then
      some { preamble with frames := preamble.frames + 1 }
    else none
  else if chunk.kind = letters "tRNS" then
    if preamble.hasTransparency then some preamble
    else if tellsTransparency header preamble.hasPalette chunk.data.length then
      some { preamble with hasTransparency := true, kept := kept }
    else some preamble
  else if textKinds.contains chunk.kind then some { preamble with kept := kept }
  else some preamble

/-- What is known where image data begin, after at most so many chunks. -/
def preamble? (header : Header) : Nat → Preamble → Bytes → Option Preamble
  | 0, _, _ => none
  | chunks + 1, preamble, bytes =>
    if isDataStart bytes then some preamble
    else do
      let (chunk, rest) ← chunk? bytes
      preamble? header chunks (← preamble.after? header chunk) rest

/-! ## Lines -/

/-- The number of values of a pixel as it is shown. -/
def samples (header : Header) (preamble : Preamble) : Nat :=
  let colours := match header.colour with | 2 => 3 | 3 => 3 | 4 => 2 | 6 => 4 | _ => 1
  if preamble.hasTransparency then colours + 1 else colours

/-- The bytes of a line as it is shown. -/
def lineLength (header : Header) (preamble : Preamble) : Nat :=
  header.size.width * samples header preamble * (if header.depth = 16 then 2 else 1)

/-- The size of a PNG image, whose lines and kept data have to find room in so many bytes. -/
def sizeWithin? (room : Nat) (bytes : Bytes) : Option Size := do
  let rest ← behind? signature bytes
  let (first, rest) ← chunk? rest
  if first.kind = letters "IHDR" ∧ first.isIntact then
    let header ← header? first.data
    let preamble ← preamble? header (rest.length + 1) ⟨false, false, 0, 0⟩ rest
    if lineLength header preamble + preamble.kept ≤ room then some header.size else none
  else none

/-- The room in bytes for an image that stands alone. -/
def ownRoom : Nat := 536870912

/-- The size of a PNG image. -/
def size? (bytes : Bytes) : Option Size :=
  sizeWithin? ownRoom bytes

end WallpaperRotation.Image.Png
