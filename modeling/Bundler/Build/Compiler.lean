import Bundler.Build.Hooks
import Bundler.Build.Output
import Bundler.Build.Project
import Bundler.Config.Basic
import Bundler.Transform.Registry

/-!
Whole builds. A compiler is a configuration whose rules and plugins have been looked up. A run calls
the hooks before the build, searches the graph, writes the bundle, and calls the hooks after it; the
first failure ends it.
-/

namespace Bundler

/-- Why a rule of a configuration cannot be used. -/
inductive RuleError where
  | unknown (e : UnknownTransform)
  | pattern (e : InvalidPattern)
  deriving DecidableEq, Repr

/-- Why a configuration makes no compiler. -/
inductive CompilerError where
  /-- The rules are counted from one. -/
  | rule (number : Nat) (e : RuleError)
  | plugin (e : UnknownPlugin)
  deriving DecidableEq, Repr

namespace RuleError

def texts : RuleError → List String
  | unknown e => [e.message]
  | pattern e => e.texts

end RuleError

namespace CompilerError

def texts : CompilerError → List String
  | rule number e => s!"Invalid rule #{number}" :: e.texts
  | plugin e => [e.message]

end CompilerError

/-- Why a run fails. -/
inductive RunError where
  | hook (e : HookFailure)
  | graph (e : GraphError)
  | emit (e : EmitError)

namespace RunError

def texts : RunError → List String
  | hook e => e.texts
  | graph e => e.texts
  | emit e => e.texts

end RunError

structure BuildSummary where
  entry : ModuleId
  moduleCount : Nat
  outputFile : Path
  deriving DecidableEq, Repr

structure Compiler (m : Type → Type) where
  config : Config
  rules : List Rule
  hooks : Hooks m

namespace Compiler

def lookUpRule (registry : Registry) (rule : RuleConfig) : Except RuleError Rule :=
  match registry.chain rule.transforms with
  | .error e => .error (.unknown e)
  | .ok chain => (Rule.ofTest rule.test chain).mapError .pattern

/-- The rules of a configuration, of which the first has the given number. -/
def lookUpRules (registry : Registry) : Nat → List RuleConfig → Except CompilerError (List Rule)
  | _, [] => .ok []
  | number, rule :: rest =>
    match lookUpRule registry rule with
    | .error e => .error (.rule number e)
    | .ok first => (lookUpRules registry (number + 1) rest).map (first :: ·)

variable {m : Type → Type} [Monad m] [Host m]

/-- The hooks with the callbacks of some plugins. -/
def applyPlugins : List String → Hooks m → m (Except CompilerError (Hooks m))
  | [], hooks => return .ok hooks
  | name :: rest, hooks => do
    match Plugin.ofName name with
    | .error e => return .error (.plugin e)
    | .ok plugin => do
      Host.log ⟨.debug, .compiler, s!"Applying plugin '{plugin.name}'"⟩
      applyPlugins rest (plugin.tapOn hooks)

/-- The compiler of a configuration, whose rules name transforms of `registry`. -/
def ofConfig (config : Config) (registry : Registry) : m (Except CompilerError (Compiler m)) := do
  match lookUpRules registry 1 config.rules with
  | .error e => return .error e
  | .ok rules =>
    match ← applyPlugins config.plugins {} with
    | .error e => return .error e
    | .ok hooks => return .ok ⟨config, rules, hooks⟩

def project (compiler : Compiler m) : Project :=
  ⟨compiler.config.root, compiler.rules, compiler.config.extension⟩

def output (compiler : Compiler m) : Output :=
  .of compiler.config.outputDir compiler.config.output.filename

/-- The graph of a run, without writing anything. -/
def graph (compiler : Compiler m) : m (Except GraphError ModuleGraph) :=
  compiler.project.graph compiler.config.entryPath

/-- The part of a run behind the search: writes the bundle and calls the hooks after it. -/
def finish (compiler : Compiler m) (graph : ModuleGraph) : m (Except RunError BuildSummary) := do
  match ← compiler.output.emit graph compiler.config.root with
  | .error e => return .error (.emit e)
  | .ok file => do
    let summary : BuildSummary := ⟨graph.entry, graph.size, file⟩
    match ← compiler.hooks.call (.afterEmit summary.entry summary.moduleCount summary.outputFile) with
    | .error e => return .error (.hook e)
    | .ok () => do
      Host.log ⟨.info, .compiler, s!"Bundled {summary.moduleCount} modules into {summary.outputFile}"⟩
      return .ok summary

def run (compiler : Compiler m) : m (Except RunError BuildSummary) := do
  let entry := compiler.config.entryPath
  Host.log ⟨.info, .compiler, s!"Building {entry}"⟩
  match ← compiler.hooks.call (.beforeBuild compiler.config.root entry) with
  | .error e => return .error (.hook e)
  | .ok () =>
    match ← compiler.graph with
    | .error e => return .error (.graph e)
    | .ok graph => compiler.finish graph

end Compiler

end Bundler
