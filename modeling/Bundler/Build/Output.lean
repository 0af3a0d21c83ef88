import Bundler.Host.Basic
import Bundler.Module.Bundle

/-!
Writing a bundle. The output directory is replaced as a whole: the new one is made beside it and takes
its place by being renamed, so that the old one is there until the new one is complete.
-/

namespace Bundler

/-- Where a bundle goes. The directory is normalized. -/
structure Output where
  directory : Path
  filename : String
  deriving DecidableEq, Repr

/-- Why a directory could not be replaced. -/
inductive WriteError where
  | file (e : FileError)
  /-- Neither could the new directory be put into its place nor the old one, which is kept. -/
  | stranded (install : FileError) (kept : Path) (restore : FileError)
  deriving DecidableEq, Repr

namespace WriteError

def texts : WriteError → List String
  | file e => [e.message]
  | stranded install kept restore =>
    [s!"Failed to install new output: {install.message}",
     s!"Failed to restore previous output; it was kept at {kept}", restore.message]

end WriteError

/-- Why a bundle is not written. -/
inductive EmitError where
  | filename (name : String)
  | fileSystemRoot (directory : Path)
  | containsRoot (directory : Path)
  | incomplete (e : IncompleteGraph)
  | write (directory : Path) (e : WriteError)
  deriving DecidableEq, Repr

namespace EmitError

def texts : EmitError → List String
  | filename name => [s!"Output filename '{name}' must be a plain file name"]
  | fileSystemRoot directory => [s!"Refusing to use filesystem root {directory} as output directory"]
  | containsRoot directory =>
    [s!"Output directory {directory} contains the project root; emitting would delete the sources"]
  | incomplete e => [e.message]
  | write directory e => s!"Failed to write output {directory}" :: e.texts

end EmitError

namespace Output

def of (directory : Path) (filename : String) : Output := ⟨directory.normalize, filename⟩

def file (output : Output) : Path := output.directory.join output.filename

/-- Refuses file names that are paths, and directories that the sources are in. -/
def check (output : Output) (root : Path) : Except EmitError Unit :=
  if output.filename = "" ∨ output.filename.toList.any (fun c => c = '/' || c = '\\') then
    .error (.filename output.filename)
  else if output.directory.parent?.isNone then .error (.fileSystemRoot output.directory)
  else if root.normalize.startsWith output.directory then .error (.containsRoot output.directory)
  else .ok ()

/-- The directory beside whose entries the new one is made. -/
def parent (output : Output) : Path :=
  match output.directory.parent? with
  | some parent => if parent.text = "" then ⟨"."⟩ else parent
  | none => ⟨"."⟩

/-- How the names of the directories start in which the new output is made. -/
def stagingName : String := ".packrat-staging-"

/-- How the names of the directories start in which the old output waits. -/
def previousName : String := ".packrat-previous-"

/-- The name of the old output there. -/
def backupName : String := "previous"

variable {m : Type → Type} [Monad m] [Host m]

/-- Moves what stands at the output directory into a new directory beside it, if anything does. -/
def moveAside (output : Output) : m (Except FileError (Option Path)) := do
  if !(← Host.isPresent output.directory) then return .ok none
  Host.log ⟨.debug, .emitter, s!"Replacing existing output directory {output.directory}"⟩
  match ← Host.createFreshDir output.parent previousName with
  | .error e => return .error e
  | .ok holder =>
    match ← Host.rename output.directory (holder.join backupName) with
    | .ok () => return .ok (some holder)
    | .error e => do
      Host.removeTree holder
      return .error e

/-- Moves what was moved aside back. Where that fails it stays where it is. -/
def restore (output : Output) (holder : Path) (install : FileError) : m WriteError := do
  let backup := holder.join backupName
  match ← Host.rename backup output.directory with
  | .ok () => do
    Host.removeTree holder
    return .file install
  | .error e => return .stranded install backup e

/-- Puts a new directory into the place of the output directory. -/
def swap (output : Output) (staged : Path) : m (Except WriteError Unit) := do
  match ← output.moveAside with
  | .error e => return .error (.file e)
  | .ok holder =>
    match ← Host.rename staged output.directory with
    | .ok () => do
      holder.forM Host.removeTree
      return .ok ()
    | .error e =>
      match holder with
      | none => return .error (.file e)
      | some holder => return .error (← output.restore holder e)

/-- Makes the new output directory inside another one and puts it into its place. -/
def stage (output : Output) (staging : Path) (bundle : String) : m (Except WriteError Unit) := do
  let staged := staging.join "out"
  match ← Host.createDirs staged with
  | .error e => return .error (.file e)
  | .ok () =>
    match ← Host.writeText (staged.join output.filename) bundle with
    | .error e => return .error (.file e)
    | .ok () => output.swap staged

/-- Writes a bundle in the place of all that the output directory held. -/
def write (output : Output) (bundle : String) : m (Except WriteError Unit) := do
  match ← Host.createDirs output.parent with
  | .error e => return .error (.file e)
  | .ok () =>
    match ← Host.createFreshDir output.parent stagingName with
    | .error e => return .error (.file e)
    | .ok staging => do
      let result ← output.stage staging bundle
      Host.removeTree staging
      return result

/-- Writes the bundle of a graph and gives its file. -/
def emit (output : Output) (graph : ModuleGraph) (root : Path) : m (Except EmitError Path) := do
  match output.check root, graph.validate with
  | .error e, _ => return .error e
  | .ok (), .error e => return .error (.incomplete e)
  | .ok (), .ok () => do
    let bundle := Bundle.render graph
    Host.log ⟨.debug, .emitter, s!"Rendered bundle of {graph.size} modules ({bundle.utf8ByteSize} bytes)"⟩
    match ← output.write bundle with
    | .error e => return .error (.write output.directory e)
    | .ok () => do
      Host.log ⟨.info, .emitter, s!"Wrote {output.file}"⟩
      return .ok output.file

end Output

end Bundler
