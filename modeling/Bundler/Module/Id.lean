import Bundler.Path.Basic

/-!
Canonical names of modules. An id is the place of a module relative to the project root, written
with slashes, with `./` in front. Ids are the keys of the module graph and what the loader of a
bundle is called with, so all references to one file come out as one id.
-/

namespace Bundler

/-- The canonical name of a module within a build. -/
structure ModuleId where
  text : String
  deriving DecidableEq, Repr, Inhabited

/-- A path that cannot name a module, since it is not below the project root. -/
structure OutsideRoot where
  path : Path
  root : Path
  deriving DecidableEq, Repr

namespace OutsideRoot

def message (e : OutsideRoot) : String := s!"Module {e.path} is outside of the project root {e.root}"

end OutsideRoot

namespace ModuleId

instance : ToString ModuleId := ⟨ModuleId.text⟩

/-- The id of a slash-separated text. -/
def normalize (text : String) : ModuleId :=
  ⟨"./" ++ Path.slashed (Path.collapse false (Path.segments text))⟩

/-- The last piece of a slash-separated text. -/
def lastPiece (text : String) : List Char :=
  ((Text.pieces '/' text.toList).getLast?).getD []

/-- Whether a file name has an extension: a dot that is not its first character. `..` has none. -/
def hasExtension (name : List Char) : Bool :=
  name ≠ ['.', '.'] ∧ '.' ∈ name.tail

/-- A specifier with slashes for backslashes, and `extension` if its last piece has none. -/
def complete (specifier extension : String) : String :=
  let specifier := Path.toSlashes specifier
  if hasExtension (lastPiece specifier) then specifier else specifier ++ "." ++ extension

/-- The module that `specifier` means in a module of the directory `parentDir`. -/
def resolve (specifier parentDir extension : String) : ModuleId :=
  normalize (parentDir ++ "/" ++ complete specifier extension)

/-- The id of the file at `path` in the project at `root`. Both are normalized first. -/
def fromPath (path root : Path) : Except OutsideRoot ModuleId :=
  let path := path.normalize
  let root := root.normalize
  match path.below? root with
  | some parts => .ok (normalize (Path.toSlashes (Path.slashed parts)))
  | none => .error ⟨path, root⟩

/-- The directory part of an id, against which the module's own specifiers are resolved. -/
def parentDir (id : ModuleId) : String :=
  match (Text.pieces '/' id.text.toList).reverse with
  | _ :: dir :: rest => String.ofList (Text.joined '/' (dir :: rest).reverse)
  | _ => "."

/-- The text of an id below the project root. -/
def relative (id : ModuleId) : String :=
  match id.text.toList with
  | '.' :: '/' :: rest => String.ofList rest
  | _ => id.text

/-- The place of the module's file in the project at `root`. -/
def toPath (id : ModuleId) (root : Path) : Path := (root.join id.relative).normalize

end ModuleId

end Bundler
