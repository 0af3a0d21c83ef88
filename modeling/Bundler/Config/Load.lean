import Bundler.Config.Decode
import Bundler.Host.Basic

/-!
Configuration files. The directory of the file is the project root.
-/

namespace Bundler

/-- Why there is no configuration. -/
inductive ConfigError where
  | absent (directory : Path)
  | unreadable (file : Path) (e : FileError)
  | lostRoot (root : Path) (e : FileError)
  | invalid (file : Path) (fault : Config.Fault)
  deriving DecidableEq, Repr

namespace Config

def fileName : String := "packrat.toml"

end Config

namespace ConfigError

def texts : ConfigError → List String
  | absent directory => [s!"No {Config.fileName} found in {directory}; create one with at least an `entry` key"]
  | unreadable file e => [s!"Failed to read config file {file}", e.message]
  | lostRoot root e => [s!"Failed to resolve project root {root}", e.message]
  | invalid file fault => [s!"Invalid config file {file}", fault.message]

end ConfigError

namespace Config

variable {m : Type → Type} [Monad m] [Host m]

/-- The configuration in a file. -/
def load (file : Path) : m (Except ConfigError Config) := do
  match ← Host.readText file with
  | .error e => return .error (.unreadable file e)
  | .ok text =>
    let directory := match file.parent? with
      | some parent => if parent.text = "" then ⟨"."⟩ else parent
      | none => ⟨"."⟩
    match ← Host.canonical directory with
    | .error e => return .error (.lostRoot directory e)
    | .ok root => match ofText text root with
      | .error fault => return .error (.invalid file fault)
      | .ok config => do
        Host.log ⟨.debug, .config, s!"Loaded configuration from {file}"⟩
        return .ok config

/-- The configuration of a directory. -/
def discover (directory : Path) : m (Except ConfigError Config) := do
  let file := directory.join fileName
  if ← Host.isFile file then load file else return .error (.absent directory)

end Config

end Bundler
