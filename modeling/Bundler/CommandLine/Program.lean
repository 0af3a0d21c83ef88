import Bundler.Build.Compiler
import Bundler.CommandLine.Arguments
import Bundler.CommandLine.LogFilter
import Bundler.Config.Load
import Bundler.Host.World

/-!
The program: what it does for its arguments, and what it prints.
-/

namespace Bundler.CommandLine

inductive ProgramError where
  | noCurrentDir (e : FileError)
  | config (e : ConfigError)
  | compiler (e : CompilerError)
  | run (e : RunError)

namespace ProgramError

def texts : ProgramError → List String
  | noCurrentDir e => ["Failed to get current directory", e.message]
  | config e => e.texts
  | compiler e => e.texts
  | run e => e.texts

end ProgramError

/-- A text behind four blanks, or behind its number where there are several. -/
def indented (number : Option Nat) (text : String) : String :=
  let (first, next) := match number with
    | none => ("    ", "\n    ")
    | some n =>
      let digits := toString n
      (String.ofList (List.replicate (5 - digits.length) ' ') ++ digits ++ ": ", "\n       ")
  first ++ String.ofList (text.toList.flatMap fun c => if c = '\n' then next.toList else [c])

/-- A failure with its causes, as the program prints it. -/
def report : List String → String
  | [] => ""
  | [message] => s!"Error: {message}\n"
  | [message, cause] => s!"Error: {message}\n\nCaused by:\n" ++ indented none cause ++ "\n"
  | message :: causes =>
    let numbered := causes.zipIdx.map fun (cause, n) => indented (some n) cause
    s!"Error: {message}\n\nCaused by:\n" ++ "\n".intercalate numbered ++ "\n"

/-- What the program is to do. -/
inductive Task where
  /-- Say something and end. -/
  | answer (text : String)
  | refuse (text : String)
  | build (config : Option String) (filter : LogFilter) (warnings : List String)

/-- What the arguments and the wish about the log ask for. -/
def Task.of (arguments : List String) (logWish : Option String) : Task :=
  match Request.ofArguments arguments with
  | .error e => .refuse e.message
  | .ok .help => .answer helpText
  | .ok .version => .answer versionText
  | .ok (.build config verbosity) =>
    let filter := LogFilter.upTo (min (verbosity + Level.warn.rank) Level.trace.rank)
    let (filter, warnings) := match logWish with
      | some wish => filter.refine wish
      | none => (filter, [])
    .build config filter (warnings.map fun warning => s!"warning: {warning}, ignoring it\n")

section
variable {m : Type → Type} [Monad m] [Host m]

/-- The configuration of a build: the one in a file, or that of the current directory. -/
def configuration (file : Option String) : m (Except ProgramError Config) := do
  match file with
  | some file => return (← Config.load ⟨file⟩).mapError .config
  | none =>
    match ← Host.currentDir with
    | .error e => return .error (.noCurrentDir e)
    | .ok directory => return (← Config.discover directory).mapError .config

/-- Builds the bundle of a configuration. -/
def build (file : Option String) : m (Except ProgramError Unit) := do
  match ← configuration file with
  | .error e => return .error e
  | .ok config =>
    match ← Compiler.ofConfig config .builtin with
    | .error e => return .error (.compiler e)
    | .ok compiler =>
      match ← compiler.run with
      | .error e => return .error (.run e)
      | .ok summary => do
        Host.log ⟨.info, .program,
          s!"Wrote {summary.outputFile} ({summary.moduleCount} modules, entry {summary.entry})"⟩
        return .ok ()

end

/-- What a run of the program leaves: its exit code and what it printed. -/
structure Finished where
  code : Nat
  stdout : String
  stderr : String

/-- A run of the program in a world. -/
def runIn (world : World) (arguments : List String) (logWish : Option String) : Finished × World :=
  match Task.of arguments logWish with
  | .answer text => (⟨0, text, ""⟩, world)
  | .refuse text => (⟨2, "", text⟩, world)
  | .build config filter warnings =>
    let (result, world) := (build config : Session _).run { world with log := [] }
    let lines := (world.log.filter filter.shows).map fun line => line.shown ++ "\n"
    let log := "".intercalate (warnings ++ lines)
    match result with
    | .ok () => (⟨0, "", log⟩, world)
    | .error e => (⟨1, "", log ++ report e.texts⟩, world)

end Bundler.CommandLine
