/-
# Sizes of icons

An icon file lists several images, each of which is a PNG or a BMP without its file header.  The one
with the most bits for a pixel counts, and of those the largest one.
-/
import WallpaperRotation.Image.Bmp
import WallpaperRotation.Image.Png

namespace WallpaperRotation.Image.Ico

/-- An image in the list: the size and the bits for a pixel that the list gives, and where its
bytes start. -/
structure Entry where
  size : Size
  bits : Nat
  offset : Nat

/-- The greatest number of planes and of bits for a pixel. -/
def numberLimit : Nat := 256

/-- A side of an image; zero stands for the side that is too great for one byte. -/
def side (n : Nat) : Nat := if n = 0 then 256 else n

/-- So many entries of the list. -/
def entries? : Nat → Bytes → Option (List Entry)
  | 0, _ => some []
  | count + 1, bytes => do
    let (width, rest) ← little? 1 bytes
    let (height, rest) ← little? 1 rest
    let (_, rest) ← split? 2 rest
    let (planes, rest) ← little? 2 rest
    let (bits, rest) ← little? 2 rest
    let (_, rest) ← split? 4 rest
    let (offset, rest) ← little? 4 rest
    if planes ≤ numberLimit ∧ bits ≤ numberLimit then
      (entries? count rest).map (⟨⟨side width, side height⟩, bits, offset⟩ :: ·)
    else none

/-- The first entry has more bits for a pixel, or as many and a larger area. -/
def beats (a b : Entry) : Bool :=
  b.bits < a.bits ||
    (a.bits = b.bits && b.size.width * b.size.height < a.size.width * a.size.height)

/-- The entry that counts: the last one, unless another one beats it. -/
def best? (entries : List Entry) : Option Entry := do
  let last ← entries.getLast?
  some (entries.dropLast.foldl (fun best entry => if beats entry best then entry else best) last)

/-- The room in bytes for an image in an icon. -/
def room : Nat := 524288

/-- The size of the image of an entry.  A PNG is not larger than the list says; the height of a BMP
counts its mask as well. -/
def Entry.imageSize? (entry : Entry) (bytes : Bytes) : Option Size := do
  let image := bytes.drop entry.offset
  let (start, _) ← split? Png.signature.length image
  if start.map UInt8.toNat = Png.signature then
    let size ← Png.sizeWithin? room image
    if size.width ≤ entry.size.width ∧ size.height ≤ entry.size.height then some size else none
  else
    (Bmp.headerSize? image).map fun size => { size with height := size.height / 2 }

/-- The size of an icon. -/
def size? (bytes : Bytes) : Option Size := do
  let (_, rest) ← split? 4 bytes
  let (count, rest) ← little? 2 rest
  let entry ← best? (← entries? count rest)
  entry.imageSize? bytes

end WallpaperRotation.Image.Ico
