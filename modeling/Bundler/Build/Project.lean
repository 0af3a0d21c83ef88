import Bundler.Build.Search
import Bundler.Host.Basic
import Bundler.Script.Require
import Bundler.Transform.Rule

/-!
The modules of a project. A module is built from its file: the file is read, the rules make a script
of it, and the script's `require` calls are replaced. The graph of a project holds the modules that
its entry needs.
-/

namespace Bundler

/-- The sources of a build. -/
structure Project where
  root : Path
  rules : List Rule
  /-- What specifiers without an extension get. -/
  extension : String

/-- Why a source cannot be had. -/
inductive LoadError where
  | unreadable (file : Path) (e : FileError)
  | transform (e : TransformFailure)
  deriving DecidableEq, Repr

namespace LoadError

def texts : LoadError → List String
  | unreadable file e => [s!"Failed to read module source {file}", e.message]
  | transform e => e.texts

end LoadError

/-- Why a module cannot be built. -/
inductive ModuleError where
  | load (e : LoadError)
  | rewrite (e : RewriteError)
  deriving DecidableEq

namespace ModuleError

def texts : ModuleError → List String
  | load e => e.texts
  | rewrite e => [e.message]

end ModuleError

/-- Why there is no graph. -/
inductive GraphError where
  | outside (e : OutsideRoot)
  | search (e : SearchError ModuleError)
  /-- The search took more steps than it may. -/
  | endless
  deriving DecidableEq

namespace GraphError

def texts : GraphError → List String
  | outside e => [e.message]
  | search (.cycle chain) => ["Circular dependency detected: " ++ " -> ".intercalate (chain.map ModuleId.text)]
  | search (.unbuilt id (some importer) cause) =>
    s!"Failed to build module {id} (required by {importer})" :: cause.texts
  | search (.unbuilt id none cause) => s!"Failed to build entry module {id}" :: cause.texts
  | endless => ["The module graph has no end"]

end GraphError

namespace Rule

variable {m : Type → Type} [Monad m] [Host m]

/-- What the rules make of a source, with the steps in the log. -/
def transform (rules : List Rule) (source : String) (path : Path) : m (Except TransformFailure String) := do
  let done := applyAll rules source path
  done.begun.forM fun step => Host.log ⟨.trace, .loader,
    s!"Applying transform '{step.transform.name}' (rule '{step.rule.test}') to {path}"⟩
  return done.result

/-- The source in a file, after the rules. -/
def load (rules : List Rule) (path : Path) : m (Except LoadError String) := do
  match ← Host.readText path with
  | .error e => return .error (.unreadable path e)
  | .ok source => return (← transform rules source path).mapError .transform

end Rule

namespace Project

variable {m : Type → Type} [Monad m] [Host m]

def build (project : Project) (id : ModuleId) : m (Except ModuleError Module) := do
  let path := id.toPath project.root
  match ← Rule.load project.rules path with
  | .error e => return .error (.load e)
  | .ok source =>
    let rewriting := rewrite project.extension id source
    rewriting.resolved.forM fun found =>
      Host.log ⟨.trace, .rewriting, s!"{id}: require('{found.specifier}') -> {found.id}"⟩
    match rewriting.result with
    | .error e => return .error (.rewrite e)
    | .ok rewritten =>
      Host.log ⟨.debug, .search, s!"Resolved {id} with {rewritten.dependencies.length} dependencies"⟩
      return .ok ⟨id, path, rewritten.code, rewritten.dependencies⟩

/-- The builder of a search in the project. -/
def builder (project : Project) : Builder m ModuleError where
  build := project.build
  tell
    | .finished id => Host.log ⟨.trace, .search, s!"Finished resolving {id}"⟩
    | .skipped id => Host.log ⟨.trace, .search, s!"Skipping {id}, already in the graph"⟩

/-- The most steps that a search may take. -/
def maxSteps : Nat := Nat.pow 10 18

/-- The graph of what the file at `entry` needs, if the search ends within some steps. -/
def graphWithin (steps : Nat) (project : Project) (entry : Path) : m (Except GraphError ModuleGraph) := do
  match ModuleId.fromPath entry project.root with
  | .error e => return .error (.outside e)
  | .ok id => do
    Host.log ⟨.debug, .search, s!"Building module graph from entry {id}"⟩
    match ← Search.run project.builder steps (.start id) with
    | none => return .error .endless
    | some (.error e) => return .error (.search e)
    | some (.ok graph) =>
      Host.log ⟨.debug, .search, s!"Module graph complete with {graph.size} modules"⟩
      return .ok graph

/-- The graph of what the file at `entry` needs. -/
def graph (project : Project) (entry : Path) : m (Except GraphError ModuleGraph) :=
  project.graphWithin maxSteps entry

end Project

end Bundler
