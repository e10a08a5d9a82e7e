/-
# Sizes of farbfeld images

A farbfeld starts with its size; each pixel has four values of two bytes.
-/
import WallpaperRotation.Image.Field

namespace WallpaperRotation.Image.Farbfeld

/-- The size of a farbfeld image. -/
def size? (bytes : Bytes) : Option Size := do
  let rest ← behind? (letters "farbfeld") bytes
  let (width, rest) ← big? 4 rest
  let (height, _) ← big? 4 rest
  let size : Size := ⟨width, height⟩
  if size.fits 8 then some size else none

end WallpaperRotation.Image.Farbfeld
