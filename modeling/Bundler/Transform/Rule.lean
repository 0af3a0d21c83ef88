import Bundler.Pattern.Parser
import Bundler.Transform.Basic

/-!
Rules that say which transforms a source goes through. Each rule has a pattern for paths and a chain
of transforms, of which the last runs first. The chains of all rules that match a path run one after
the other, in the order of the rules.
-/

namespace Bundler

/-- A chain of transforms for the paths that a pattern matches. -/
structure Rule where
  /-- The pattern as it was written. -/
  test : String
  pattern : Pattern
  chain : List Transform

/-- A text that is no pattern. -/
structure InvalidPattern where
  test : String
  deriving DecidableEq, Repr

namespace InvalidPattern

def texts (e : InvalidPattern) : List String :=
  [s!"Invalid rule pattern '{e.test}'", "not a regular expression"]

end InvalidPattern

/-- A transform that failed on a source. -/
structure TransformFailure where
  transform : String
  path : Path
  reason : String
  deriving DecidableEq, Repr

namespace TransformFailure

def texts (e : TransformFailure) : List String :=
  [s!"Transform '{e.transform}' failed for {e.path}", e.reason]

end TransformFailure

/-- A transform and the rule that asks for it. -/
structure Step where
  rule : Rule
  transform : Transform

/-- What a source came to, and the steps that were begun. -/
structure Transformed where
  result : Except TransformFailure String
  begun : List Step

/-- What comes of a source that goes on to more steps, unless a step has failed before. -/
def Transformed.andThen (done : Transformed) (onward : String → Transformed) : Transformed :=
  match done.result with
  | .ok source =>
    let more := onward source
    ⟨more.result, done.begun ++ more.begun⟩
  | .error _ => done

/-- The source behind some steps. The first that fails is the last that is begun. -/
def Step.runAll (path : Path) : List Step → String → Transformed
  | [], source => ⟨.ok source, []⟩
  | step :: rest, source =>
    match step.transform.run source path with
    | .ok source =>
      let done := runAll path rest source
      ⟨done.result, step :: done.begun⟩
    | .error reason => ⟨.error ⟨step.transform.name, path, reason⟩, [step]⟩

namespace Rule

def ofTest (test : String) (chain : List Transform) : Except InvalidPattern Rule :=
  match Pattern.parse? test with
  | some pattern => .ok ⟨test, pattern, chain⟩
  | none => .error ⟨test⟩

/-- Whether the rule is for a path. Patterns see slashes in the place of backslashes. -/
def matchesPath (rule : Rule) (path : Path) : Bool :=
  rule.pattern.matchesIn (Path.toSlashes path.text)

/-- The steps of a rule, in the order in which they run. -/
def steps (rule : Rule) : List Step := rule.chain.reverse.map fun transform => ⟨rule, transform⟩

/-- What the rules make of a source. Each rule that matches the path gets what the ones before it have made. -/
def applyAll : List Rule → String → Path → Transformed
  | [], source, _ => ⟨.ok source, []⟩
  | rule :: rest, source, path =>
    if rule.matchesPath path then
      (Step.runAll path rule.steps source).andThen fun source => applyAll rest source path
    else applyAll rest source path

end Rule

end Bundler
