/-
# Lines

The lines of a text: what stands between its line feeds, one more than there are of them.
-/

namespace WallpaperRotation.Text

/-- The lines of a text. -/
def lines : List Char → List (List Char)
  | [] => [[]]
  | c :: rest =>
    if c = '\n' then [] :: lines rest
    else
      match lines rest with
      | [] => [[c]]
      | line :: others => (c :: line) :: others

end WallpaperRotation.Text
