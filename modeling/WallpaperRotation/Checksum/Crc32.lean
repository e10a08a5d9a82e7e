/-
# The cyclic checksum of 32 bits

The checksum that guards the chunks of an image file: the remainder of a division of polynomials
over two elements, with all bits reflected.
-/

namespace WallpaperRotation.Crc32

/-- One bit of the division. -/
def shift (w : UInt32) : UInt32 :=
  if w &&& 1 = 1 then (w >>> 1) ^^^ 0xEDB88320 else w >>> 1

/-- The remainder after one more byte. -/
def step (w : UInt32) (byte : UInt8) : UInt32 :=
  shift (shift (shift (shift (shift (shift (shift (shift (w ^^^ byte.toUInt32))))))))

/-- The checksum of the bytes. -/
def checksum (bytes : List UInt8) : UInt32 :=
  bytes.foldl step 0xFFFFFFFF ^^^ 0xFFFFFFFF

end WallpaperRotation.Crc32
