/-
# Sizes of GIF images

A GIF starts with the size of its screen and perhaps a table of colours.  It is taken for an image
once something that is no extension is announced behind that: a picture, or the end of the file.
-/
import WallpaperRotation.Image.Field

namespace WallpaperRotation.Image.Gif

/-- The last of the sub-blocks of an extension, and what is behind them. -/
def blocks? : Nat → Bytes → Bytes → Option (Bytes × Bytes)
  | 0, _, _ => none
  | fuel + 1, last, bytes => do
    let (length, rest) ← little? 1 bytes
    if length = 0 then some (last, rest)
    else
      let (block, rest) ← split? length rest
      blocks? fuel block rest

/-- What is behind an extension: a text, a comment, data of an application, or the timing of a
picture, which has four bytes. -/
def behindExtension? (bytes : Bytes) : Option Bytes := do
  let (label, rest) ← little? 1 bytes
  let (last, rest) ← blocks? (rest.length + 1) [] rest
  if [0x01, 0xFE, 0xFF].contains label ∨ (label = 0xF9 ∧ last.length = 4) then some rest else none

/-- Something that is no extension is announced after at most so many extensions.  What is announced
must also begin, apart from the end of the file behind an extension. -/
def announced (isFirst : Bool) : Nat → Bytes → Bool
  | _, [] => false
  | 0, _ => false
  | fuel + 1, kind :: rest =>
    if kind = 0x21 then
      match behindExtension? rest with
      | some rest => announced false fuel rest
      | none => false
    else (kind = 0x3B && !isFirst) || rest ≠ []

/-- The size of a GIF image. -/
def size? (bytes : Bytes) : Option Size := do
  let rest ← (behind? (letters "GIF87a") bytes).or (behind? (letters "GIF89a") bytes)
  let (width, rest) ← little? 2 rest
  let (height, rest) ← little? 2 rest
  let (flags, rest) ← little? 1 rest
  let (_, rest) ← split? 2 rest
  let colours := if flags ≥ 128 then 3 * Nat.pow 2 (flags % 8 + 1) else 0
  let (_, rest) ← split? colours rest
  if announced true (rest.length + 1) rest then some ⟨width, height⟩ else none

end WallpaperRotation.Image.Gif
