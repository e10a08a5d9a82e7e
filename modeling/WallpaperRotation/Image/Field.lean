/-
# Fields of binary files

Image headers are sequences of numbers of one to four bytes, in one of the two byte orders.  A
field is read off the front of the bytes, together with what is left; there is no field where there
are too few bytes.
-/

namespace WallpaperRotation.Image

/-- The size of an image in pixels. -/
structure Size where
  width : Nat
  height : Nat
  deriving DecidableEq, Repr

/-- The number of the bytes of the pixels, with so many for each, fits in 64 bits. -/
def Size.fits (size : Size) (bytesPerPixel : Nat) : Bool :=
  size.width * size.height ≤ 18446744073709551615 / bytesPerPixel

/-- The bytes that are still to be read. -/
abbrev Bytes := List UInt8

/-- So many bytes and the rest, when there are as many. -/
def split? (count : Nat) (bytes : Bytes) : Option (Bytes × Bytes) :=
  let field := bytes.take count
  if field.length = count then some (field, bytes.drop count) else none

/-- The number that the bytes make up, highest byte first. -/
def bigEndian (bytes : Bytes) : Nat :=
  bytes.foldl (fun n byte => n * 256 + byte.toNat) 0

/-- The number that the bytes make up, lowest byte first. -/
def littleEndian (bytes : Bytes) : Nat :=
  bigEndian bytes.reverse

/-- A number of so many bytes, highest byte first. -/
def big? (count : Nat) (bytes : Bytes) : Option (Nat × Bytes) :=
  (split? count bytes).map fun (field, rest) => (bigEndian field, rest)

/-- A number of so many bytes, lowest byte first. -/
def little? (count : Nat) (bytes : Bytes) : Option (Nat × Bytes) :=
  (split? count bytes).map fun (field, rest) => (littleEndian field, rest)

/-- What stands behind a mark, when the bytes start with it. -/
def behind? (mark : List Nat) (bytes : Bytes) : Option Bytes := do
  let (field, rest) ← split? mark.length bytes
  if field.map UInt8.toNat = mark then some rest else none

/-- The letters of a mark as bytes. -/
def letters (text : String) : List Nat :=
  text.toList.map Char.toNat

end WallpaperRotation.Image
