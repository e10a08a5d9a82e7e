/-
# Sizes of QOI images

A QOI starts with its size, the number of its channels, and whether they are linear.
-/
import WallpaperRotation.Image.Field

namespace WallpaperRotation.Image.Qoi

/-- The greatest number of pixels. -/
def pixelLimit : Nat := 400000000

/-- The size of a QOI image. -/
def size? (bytes : Bytes) : Option Size := do
  let rest ← behind? (letters "qoif") bytes
  let (width, rest) ← big? 4 rest
  let (height, rest) ← big? 4 rest
  let (channels, rest) ← big? 1 rest
  let (linear, _) ← big? 1 rest
  if (channels = 3 ∨ channels = 4) ∧ linear ≤ 1 ∧ 0 < width * height ∧
      width * height ≤ pixelLimit then
    some ⟨width, height⟩
  else none

end WallpaperRotation.Image.Qoi
