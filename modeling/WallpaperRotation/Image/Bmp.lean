/-
# Sizes of BMP images

A BMP starts with a file header and an information header, whose length tells its version.  A
negative height says that the rows go from the top to the bottom.  Behind the header stand the
colours of an image with few of them.
-/
import WallpaperRotation.Image.Field

namespace WallpaperRotation.Image.Bmp

/-! ## Sides -/

/-- The number of 32 bits read as one with a sign. -/
def signed (n : Nat) : Int :=
  if n ≥ 2147483648 then (n : Int) - 4294967296 else n

/-- The greatest side, apart from the height of an image with the rows from the top. -/
def longestSide : Int := 65535

/-- The width is positive, and there is a height. -/
def sidesFit (width height : Int) : Bool :=
  0 < width && width ≤ longestSide && height ≠ 0 && height ≤ longestSide &&
    height ≠ -2147483648

/-! ## Colours -/

/-- The mask picks one run of bits out of so many, or none at all. -/
def isRun (depth mask : Nat) : Bool :=
  mask < Nat.pow 2 depth &&
    (List.range (depth + 1)).any fun low =>
      (List.range (depth + 1 - low)).any fun length =>
        mask = (Nat.pow 2 length - 1) * Nat.pow 2 low

/-- The masks of red, green and blue at the front of the bytes pick out some bits each, and the one
of the transparency, where there is one, may do so. -/
def masksFit (depth : Nat) (hasFourth : Bool) (bytes : Bytes) : Bool :=
  let masks : Option Bool := do
    let (red, rest) ← little? 4 bytes
    let (green, rest) ← little? 4 rest
    let (blue, rest) ← little? 4 rest
    let fourth ← if hasFourth then (little? 4 rest).map Prod.fst else some 0
    some ([red, green, blue].all (fun mask => mask ≠ 0) &&
      [red, green, blue, fourth].all (isRun depth))
  masks = some true

/-- The way in which the pixels are packed allows so many bits for each of them. -/
def depthFits (packing depth : Nat) : Bool :=
  match packing with
  | 0 => [1, 2, 4, 8, 16, 24, 32].contains depth
  | 1 => depth = 8
  | 2 => depth = 4
  | 3 => depth = 16 || depth = 32
  | _ => false

/-- The number of colours in the table of an image; `none` where it has more than pixels of so many
bits can tell. -/
def tableSize? (depth stated : Nat) : Option Nat :=
  if depth > 8 then some 0
  else if stated = 0 then some (Nat.pow 2 depth)
  else if stated ≤ Nat.pow 2 depth then some stated
  else none

/-! ## Headers -/

/-- The size in the shortest information header, and the length of the table behind it. -/
def core? (bytes : Bytes) : Option (Size × Nat) := do
  let (width, rest) ← little? 2 bytes
  let (height, rest) ← little? 2 rest
  let (planes, rest) ← little? 2 rest
  let (depth, _) ← little? 2 rest
  let colours ← tableSize? depth 0
  if planes = 1 ∧ [1, 4, 8, 24].contains depth ∧ sidesFit width height then
    some (⟨width, height⟩, 3 * colours)
  else none

/-- The size in a longer information header, and the length of the table behind it. -/
def info? (hasFourth : Bool) (bytes : Bytes) : Option (Size × Nat) := do
  let (width, rest) ← little? 4 bytes
  let (height, rest) ← little? 4 rest
  let (planes, rest) ← little? 2 rest
  let (depth, rest) ← little? 2 rest
  let (packing, rest) ← little? 4 rest
  let (_, rest) ← split? 12 rest
  let (stated, rest) ← little? 4 rest
  let (_, rest) ← split? 4 rest
  let colours ← tableSize? depth stated
  let (width, height) := (signed width, signed height)
  if planes = 1 ∧ sidesFit width height ∧ depthFits packing depth ∧
      (height < 0 → packing = 0 ∨ packing = 3) ∧ (packing = 3 → masksFit depth hasFourth rest) then
    some (⟨width.toNat, height.natAbs⟩, 4 * colours)
  else none

/-- The lengths of the longer information headers, and of those with a mask for transparency. -/
def infoLengths : List Nat := [40, 52, 56, 108, 124]
def fourMaskLengths : List Nat := [56, 108, 124]

/-- The size in an information header, of which these are the bytes, if its table is there. -/
def headerSize? (bytes : Bytes) : Option Size := do
  let (length, rest) ← little? 4 bytes
  let (size, table) ←
    if length = 12 then core? rest
    else if infoLengths.contains length then info? (fourMaskLengths.contains length) rest
    else none
  if length + table ≤ bytes.length ∨ table = 0 then some size else none

/-- The size of a BMP image. -/
def size? (bytes : Bytes) : Option Size := do
  let rest ← behind? (letters "BM") bytes
  let (_, rest) ← split? 12 rest
  headerSize? rest

end WallpaperRotation.Image.Bmp
