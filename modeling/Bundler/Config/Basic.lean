import Bundler.Path.Basic

/-!
What a build is told: where it starts, where it writes, and what sources go through.
-/

namespace Bundler

/-- Where the bundle goes, relative to the project root. -/
structure OutputConfig where
  path : String := "dist"
  filename : String := "main.js"
  deriving DecidableEq, Repr

/-- Transforms, by name, for the paths that a pattern matches. The last one runs first. -/
structure RuleConfig where
  test : String
  transforms : List String
  deriving DecidableEq, Repr

structure Config where
  /-- The directory that module ids are relative to. -/
  root : Path
  entry : String
  output : OutputConfig := {}
  /-- What specifiers without an extension get. -/
  extension : String := "js"
  rules : List RuleConfig := []
  plugins : List String := []
  deriving DecidableEq, Repr

/-- Why a configuration is refused. -/
inductive Rejection where
  | emptyEntry
  | extension (extension : String)
  | emptyFilename
  deriving DecidableEq, Repr

namespace Rejection

def message : Rejection → String
  | emptyEntry => "`entry` must not be empty"
  | extension given =>
    s!"`extension` must be a non-empty extension without the leading dot, got '{given}'"
  | emptyFilename => "`output.filename` must not be empty"

end Rejection

namespace Config

/-- The configuration, unless something in it cannot be used. -/
def validate (config : Config) : Except Rejection Config :=
  if config.entry = "" then .error .emptyEntry
  else if config.extension = "" ∨ config.extension.toList.head? = some '.' then
    .error (.extension config.extension)
  else if config.output.filename = "" then .error .emptyFilename
  else .ok config

/-- The file that the build starts from. -/
def entryPath (config : Config) : Path := (config.root.join config.entry).normalize

/-- The directory that the bundle is written into. -/
def outputDir (config : Config) : Path := (config.root.join config.output.path).normalize

end Config

end Bundler
