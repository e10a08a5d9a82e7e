/-
# Folders of a user

Where a user keeps pictures, and where a program of this name keeps what belongs to the user.  The
folder of pictures may be named in a list of folders, one to a line, in double quotes; there it is
either absolute or starts with the home folder, and the home folder alone means none.
-/
import WallpaperRotation.Disk.Read
import WallpaperRotation.Text.Lines
import WallpaperRotation.Text.Lossy

namespace WallpaperRotation.UserFolders

/-! ## The folder of pictures -/

/-- The text without the spaces and tabs around it. -/
def trimGaps (text : List Char) : List Char :=
  let isGap (c : Char) : Bool := c = ' ' || c = '\t'
  ((text.dropWhile isGap).reverse.dropWhile isGap).reverse

/-- The text without its backslashes, each of which keeps the character behind it. -/
def unescape : List Char → List Char
  | [] => []
  | ['\\'] => []
  | '\\' :: c :: rest => c :: unescape rest
  | c :: rest => c :: unescape rest

/-- The text between double quotes that are its first and last characters. -/
def unquote? : List Char → Option (List Char)
  | '"' :: rest => if rest.getLast? = some '"' then some rest.dropLast else none
  | _ => none

/-- What stands behind the home folder in a text that starts with it. -/
def behindHome? : List Char → Option (List Char)
  | '$' :: 'H' :: 'O' :: 'M' :: 'E' :: '/' :: rest => some rest
  | _ => none

/-- The folder that a quoted text names. -/
def folder? (home : FilePath) (text : List Char) : Option FilePath := do
  let value ← unquote? text
  match behindHome? value with
  | some [] => none
  | some rest => some (home.join ⟨String.ofList (unescape rest)⟩)
  | none => if value.head? = some '/' then some ⟨String.ofList (unescape value)⟩ else none

/-- The folder that a line of the list gives to pictures. -/
def pictureLine? (home : FilePath) (line : List Char) : Option FilePath :=
  match line.dropWhile (· ≠ '=') with
  | _ :: value =>
    if trimGaps (line.takeWhile (· ≠ '=')) = "XDG_PICTURES_DIR".toList then
      folder? home (trimGaps value)
    else none
  | [] => none

/-- The folder of pictures that the user's list of folders names. -/
def pictures? (disk : Disk) (home : FilePath) : Option FilePath :=
  match disk.read (home.join ⟨".config/user-dirs.dirs"⟩) with
  | .ok bytes => (Text.lines (Text.decodeLossy bytes.toList)).findSome? (pictureLine? home)
  | .error _ => none

/-- The folder of wallpapers where nothing was decided. -/
def wallpapers (disk : Disk) (home : FilePath) : FilePath :=
  match pictures? disk home with
  | some folder => folder.child "wallpapers"
  | none => ⟨"~/Pictures/wallpapers"⟩

/-! ## The folders of the program -/

/-- The name under which the program keeps its files. -/
def programName : String := "periwall"

/-- The file with what the user decided. -/
def configPath (home : FilePath) : FilePath :=
  home.join ⟨".config/" ++ programName ++ "/config.toml"⟩

/-- The folder with what the program remembers. -/
def dataFolder (home : FilePath) : FilePath :=
  home.join ⟨".local/share/" ++ programName⟩

end WallpaperRotation.UserFolders
