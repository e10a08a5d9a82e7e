/-
# Sizes of WebP images

A WebP is a container of chunks, each padded to an even length.  The first chunk is an image of one
of two codings, or a header with the size of a canvas that announces the chunks after it.
-/
import WallpaperRotation.Image.Field

namespace WallpaperRotation.Image.WebP

/-! ## Chunks -/

/-- A chunk: its type, the length that it states, and all that is behind that. -/
structure Chunk where
  kind : List Nat
  length : Nat
  behind : Bytes

/-- The bytes that a chunk's start takes. -/
def startLength : Nat := 8

/-- The length of the data with what pads them. -/
def Chunk.padded (chunk : Chunk) : Nat := chunk.length + chunk.length % 2

/-- The chunk that starts here, whether all its data are there or not. -/
def chunk? (bytes : Bytes) : Option Chunk := do
  let (kind, rest) ← split? 4 bytes
  let (length, rest) ← little? 4 rest
  some ⟨kind.map UInt8.toNat, length, rest⟩

/-- The chunk has the type of these letters. -/
def Chunk.is (chunk : Chunk) (kind : String) : Bool :=
  chunk.kind = letters kind

/-! ## Codings -/

/-- The number of lengths that the fourteen bits for a side can tell. -/
def sideLimit : Nat := 16384

/-- The size in the first frame of the lossy coding. -/
def lossySize? (data : Bytes) : Option Size := do
  let (tag, rest) ← little? 3 data
  let rest ← behind? [0x9D, 0x01, 0x2A] rest
  let (width, rest) ← little? 2 rest
  let (height, _) ← little? 2 rest
  let size : Size := ⟨width % sideLimit, height % sideLimit⟩
  if tag % 2 = 0 ∧ size.width ≠ 0 ∧ size.height ≠ 0 then some size else none

/-- The size in the header of the lossless coding. -/
def losslessSize? (data : Bytes) : Option Size := do
  let rest ← behind? [0x2F] data
  let (header, _) ← little? 4 rest
  if header / 536870912 = 0 then
    some ⟨(1 + header) % sideLimit, (1 + header / sideLimit) % sideLimit⟩
  else none

/-! ## Canvases -/

/-- The bytes of an animation's frame before its first chunk. -/
def frameFields : Nat := 16

/-- The chunk in a frame of an animation. -/
def frameChunk? (frame : Chunk) : Option Chunk := do
  let (_, rest) ← split? frameFields frame.behind
  chunk? rest

/-- The frame's fields are there and, where its coding is asked for, the start of its chunk. -/
def frameHolds (isLossy : Bool) (frame : Chunk) : Bool :=
  frameFields + startLength ≤ frame.length &&
    (if isLossy then frameFields ≤ frame.behind.length else (frameChunk? frame).isSome)

/-- The frame's chunk is one of the lossy coding. -/
def isLossyFrame (frame : Chunk) : Bool :=
  (frameChunk? frame).any fun chunk => chunk.is "VP8 " || chunk.is "ALPH"

/-- The chunks in the bytes, as far as there is room for them in the container and their starts are
there; `none` when a frame of an animation is cut off.  The coding of frames is asked for until a
lossy one was found. -/
def chunks? : Nat → Nat → Bool → Bytes → Option (List Chunk)
  | 0, _, _, _ => some []
  | fuel + 1, room, isLossy, bytes =>
    if room = 0 then some []
    else
      match chunk? bytes with
      | none => some []
      | some chunk =>
        let isFrame := chunk.is "ANMF"
        if isFrame && !frameHolds isLossy chunk then none
        else
          (chunks? fuel (room - (startLength + chunk.padded))
            (isLossy || (isFrame && isLossyFrame chunk)) (chunk.behind.drop chunk.padded)).map
            (chunk :: ·)

/-- The chunks in the first frame of an animation can be looked up: one, and another one if the
frame has room for it. -/
def firstFrameHolds (frame : Chunk) : Bool :=
  match frameChunk? frame with
  | none => false
  | some chunk =>
    frame.length < frameFields + 2 * startLength + chunk.padded || (chunk? chunk.behind).isSome

/-- The settings of an animation are whole. -/
def settingsHold (settings : Chunk) : Bool :=
  settings.length = 6 && 6 ≤ settings.behind.length

/-- The size of the canvas, when the chunks that the header announces are among those behind it;
`room` is what the container says of its length. -/
def canvasSize? (room : Nat) (header : Chunk) : Option Size := do
  let (flags, fields) ← little? 1 header.behind
  let (_, fields) ← little? 3 fields
  let (width, fields) ← little? 3 fields
  let (height, _) ← little? 3 fields
  let rest := header.behind.drop header.padded
  let chunks ← chunks? (rest.length + 1) room false rest
  let first? (kind : String) : Option Chunk := chunks.find? fun chunk => chunk.is kind
  let has (kind : String) : Bool := (first? kind).isSome
  let flag (bit : Nat) : Bool := flags / bit % 2 = 1
  let size : Size := ⟨width + 1, height + 1⟩
  if size.width * size.height ≥ 4294967296 then none
  else if flag 8 && !has "EXIF" then none
  else if flag 4 && !has "XMP " then none
  else if flag 2 && !(has "ANMF" && (first? "ANIM").any settingsHold) then none
  else if !flag 2 && has "VP8 " == has "VP8L" then none
  else if !(first? "ANMF").all firstFrameHolds then none
  else some size

/-- The bytes of the container that its length counts before the chunks behind the first one. -/
def containerFields : Nat := 12

/-- The size of a WebP image. -/
def size? (bytes : Bytes) : Option Size := do
  let rest ← behind? (letters "RIFF") bytes
  let (length, rest) ← little? 4 rest
  let rest ← behind? (letters "WEBP") rest
  let first ← chunk? rest
  if first.is "VP8 " then lossySize? first.behind
  else if first.is "VP8L" then losslessSize? first.behind
  else if first.is "VP8X" then canvasSize? (length - containerFields) first
  else none

end WallpaperRotation.Image.WebP
