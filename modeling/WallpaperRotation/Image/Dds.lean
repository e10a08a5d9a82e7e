/-
# Sizes of DDS images

A DDS starts with a header of 124 bytes and perhaps a second one.  Only images that are coded in
blocks of four by four pixels are taken.
-/
import WallpaperRotation.Image.Field

namespace WallpaperRotation.Image.Dds

/-- The bits of the header's flags that have to be set, and the number of all that may be. -/
def requiredFlags : List Nat := [1, 2, 4, 4096]
def otherFlags : List Nat := [8, 131072, 524288, 8388608]

/-- Every required flag is set and no other than the known ones. -/
def flagsFit (flags : Nat) : Bool :=
  let isSet (flag : Nat) : Bool := flags / flag % 2 = 1
  let known := (requiredFlags ++ otherFlags).filter isSet
  requiredFlags.all isSet && known.foldl (· + ·) 0 = flags

/-- The bytes of a pixel in a coding of the second header. -/
def extendedLength? (bytes : Bytes) : Option Nat := do
  let (coding, rest) ← little? 4 bytes
  let (dimension, rest) ← little? 4 rest
  let (kind, rest) ← little? 4 rest
  let (count, rest) ← little? 4 rest
  let (transparency, _) ← little? 4 rest
  if dimension < 2 ∨ 4 < dimension ∨ (kind ≠ 0 ∧ kind ≠ 4) ∨ (dimension = 4 ∧ count ≠ 1) ∨
      4 < transparency then
    none
  else if 70 ≤ coding ∧ coding ≤ 72 then some 3
  else if 73 ≤ coding ∧ coding ≤ 78 then some 4
  else none

/-- The bytes of a pixel in a coding; `bytes` are those behind the header. -/
def pixelLength? (coding : List Nat) (bytes : Bytes) : Option Nat :=
  if coding = letters "DXT1" then some 3
  else if coding = letters "DXT3" ∨ coding = letters "DXT5" then some 4
  else if coding = letters "DX10" then extendedLength? bytes
  else none

/-- The size of a DDS image. -/
def size? (bytes : Bytes) : Option Size := do
  let rest ← behind? (letters "DDS ") bytes
  let (length, rest) ← little? 4 rest
  let (flags, rest) ← little? 4 rest
  let (height, rest) ← little? 4 rest
  let (width, rest) ← little? 4 rest
  let (_, rest) ← split? 56 rest
  let (formatLength, rest) ← little? 4 rest
  let (formatFlags, rest) ← little? 4 rest
  let (coding, rest) ← split? 4 rest
  let (_, rest) ← split? 40 rest
  let size : Size := ⟨width, height⟩
  let pixel ← pixelLength? (coding.map UInt8.toNat) rest
  if length = 124 ∧ flagsFit flags ∧ formatLength = 32 ∧ formatFlags / 4 % 2 = 1 ∧
      size.fits pixel ∧ width % 4 = 0 ∧ height % 4 = 0 then
    some size
  else none

end WallpaperRotation.Image.Dds
