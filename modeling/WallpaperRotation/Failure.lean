/-
# Failures

What can go wrong while wallpapers are kept and shown, as causes, and how it is told: the outermost
circumstance first, each next one behind a colon.
-/
import WallpaperRotation.Json.Scan
import WallpaperRotation.Scope

namespace WallpaperRotation

/-! ## Documents -/

/-- The documents that are kept on a disk. -/
inductive Document where
  | config
  | library
  | rotationState
  deriving DecidableEq, Repr

/-- The document in words. -/
def Document.name : Document → String
  | .config => "config"
  | .library => "library"
  | .rotationState => "rotation state"

/-- Why a file does not hold what it should. -/
inductive ParseFault where
  | json (fault : Json.Fault)
  | toml
  /-- The start of the file is not that of an image of its kind. -/
  | image
  deriving DecidableEq, Repr

/-- The fault in words. -/
def ParseFault.message : ParseFault → String
  | .json .cutOff => "the JSON text ends too soon"
  | .json .malformed => "the text is no JSON"
  | .json .unfit => "the JSON text has another shape than a document of this kind"
  | .toml => "the text is no TOML document of this kind"
  | .image => "the start of the file is not that of an image of its kind"

/-! ## Causes -/

/-- Why something failed. -/
inductive Failure where
  | store (error : StoreError)
  | scope (error : ScopeError)
  | disk (reason : DiskFault)
  | unreadable (document : Document) (path : FilePath) (reason : DiskFault)
  | unparsed (document : Document) (path : FilePath) (fault : ParseFault)
  | unwritable (document : Document) (path : FilePath) (reason : DiskFault)
  | unlisted (folder : FilePath) (reason : DiskFault)
  /-- No record can be made from a file. -/
  | noRecord (path : FilePath) (fault : Wallpaper.FileFault)
  /-- A command without even a program. -/
  | emptyCommand
  | notRun (program : String) (reason : DiskFault)
  /-- A program ended badly and complained in these words. -/
  | badExit (program : String) (complaint : String)
  | noApplyCommand (target : Target)
  | notShown (target : Target) (cause : Failure)
  | notCleared (target : Target) (cause : Failure)
  | notDeleted (path : FilePath) (reason : DiskFault)
  | badInterval (text : String)
  /-- A folder of a scope that is not configured as one of the library's in the file. -/
  | foreignFolder (folder : FilePath) (configPath : FilePath)
  /-- A question to people where nobody can answer. -/
  | noTerminal
  /-- A failure in the words of a part that is not kept here. -/
  | reported (message : String)
  deriving DecidableEq

namespace Failure

/-! ## Telling -/

/-- One link of the chain in which a failure is told. -/
inductive Link where
  | words (text : String)
  | misfit (fault : ParseFault)

/-- The link in words. -/
def Link.message : Link → String
  | .words text => text
  | .misfit fault => fault.message

/-- The chain for a file whose contents have no digest. -/
def digestChain (path : FilePath) : Wallpaper.DigestFault → List Link
  | .opening reason => [.words ("Failed to open " ++ path.text), .words reason.message]
  | .reading reason => [.words ("Failed to hash " ++ path.text), .words reason.message]

/-- The links of a failure, the outermost one first. -/
def chain : Failure → List Link
  | .store error => [.words error.message]
  | .scope error => [.words error.message]
  | .disk reason => [.words reason.message]
  | .unreadable document path reason =>
    [.words ("Failed to read " ++ document.name ++ " " ++ path.text), .words reason.message]
  | .unparsed document path fault =>
    [.words ("Failed to parse " ++ document.name ++ " " ++ path.text), .misfit fault]
  | .unwritable document path reason =>
    [.words ("Failed to write " ++ document.name ++ " " ++ path.text), .words reason.message]
  | .unlisted folder reason =>
    [.words ("Failed to read directory: " ++ folder.text), .words reason.message]
  | .noRecord path .noImage =>
    [.words ("Failed to read image dimensions of " ++ path.text), .misfit .image]
  | .noRecord path (.noDigest fault) => digestChain path fault
  | .emptyCommand => [.words "Empty command"]
  | .notRun program reason => [.words ("Failed to run " ++ program), .words reason.message]
  | .badExit program complaint => [.words (program ++ " failed: " ++ complaint)]
  | .noApplyCommand target =>
    [.words ("No apply command configured for the " ++ target.name ++ " target")]
  | .notShown target cause =>
    .words ("Failed to set " ++ target.name ++ " wallpaper") :: cause.chain
  | .notCleared target cause =>
    .words ("Failed to clear " ++ target.name ++ " wallpaper") :: cause.chain
  | .notDeleted path reason => [.words ("Failed to delete " ++ path.text), .words reason.message]
  | .badInterval text => [.words ("Invalid interval '" ++ text ++ "'")]
  | .foreignFolder folder configPath =>
    [.words (folder.text ++ " is not a library folder; add it to [library] folders in " ++
      configPath.text)]
  | .noTerminal => [.words "IO error: not a terminal", .words "not a terminal"]
  | .reported message => [.words message]

/-- The failure in words. -/
def message (failure : Failure) : String :=
  ": ".intercalate (failure.chain.map Link.message)

end Failure

end WallpaperRotation
