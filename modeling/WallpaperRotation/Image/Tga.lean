/-
# Sizes of TGA images

A TGA has no signature: it starts with a header of eighteen bytes, an identifier and a table of
colours.  What is taken for one has to have one of the usual kinds of pixels.
-/
import WallpaperRotation.Image.Field

namespace WallpaperRotation.Image.Tga

/-- The kinds of images in colours, and those of them whose pixels stand for colours in a table. -/
def colourKinds : List Nat := [1, 2, 9, 10]
def tableKinds : List Nat := [1, 9]

/-- The bits of a pixel, apart from those for transparency, make up colours or shades of gray. -/
def bitsFit (inColours : Bool) (transparent bits : Nat) : Bool :=
  if inColours then
    [(0, 32), (8, 24), (0, 24), (0, 16), (0, 15), (1, 15)].contains (transparent, bits)
  else [(8, 8), (0, 8), (8, 0)].contains (transparent, bits)

/-- The size of a TGA image. -/
def size? (bytes : Bytes) : Option Size := do
  let (nameLength, rest) ← little? 1 bytes
  let (tableMark, rest) ← little? 1 rest
  let (kind, rest) ← little? 1 rest
  let (_, rest) ← split? 2 rest
  let (tableSize, rest) ← little? 2 rest
  let (entryBits, rest) ← little? 1 rest
  let (_, rest) ← split? 4 rest
  let (width, rest) ← little? 2 rest
  let (height, rest) ← little? 2 rest
  let (depth, rest) ← little? 1 rest
  let (description, rest) ← little? 1 rest
  let (_, rest) ← split? nameLength rest
  let transparent := description % 16
  let isTable := tableMark = 1
  let entry := (entryBits + 7) / 8
  let bits := if isTable then entryBits else depth
  let tableFits :=
    if isTable then 2 ≤ entry ∧ entry ≤ 4 ∧ (split? (entry * tableSize) rest).isSome
    else ¬tableKinds.contains kind
  if [8, 16, 24, 32].contains depth ∧ (transparent = 0 ∨ transparent = 8) ∧
      (tableKinds.contains kind → depth ≤ 16) ∧ tableFits ∧ transparent ≤ bits ∧
      bitsFit (colourKinds.contains kind) transparent (bits - transparent) then
    some ⟨width, height⟩
  else none

end WallpaperRotation.Image.Tga
