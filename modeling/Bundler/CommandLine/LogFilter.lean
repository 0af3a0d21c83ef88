import Bundler.Host.Basic
import Bundler.Pattern.Parser

/-!
Which lines of the log are shown. A filter holds directives, each with a least level for the topics
whose names start in some way; the longest that fits a topic decides. A filter is written as
directives between commas, with a pattern for texts behind a slash.
-/

namespace Bundler.CommandLine

/-- The rank of the least important lines that are shown, zero for none, where the topic's name
starts with `topic`. -/
structure Directive where
  topic : Option String
  rank : Nat
  deriving DecidableEq, Repr

structure LogFilter where
  directives : List Directive
  texts : Option Pattern := none

namespace LogFilter

/-- The filter that shows lines up to a rank, whatever their topic. -/
def upTo (rank : Nat) : LogFilter := ⟨[⟨none, rank⟩], none⟩

/-- The rank that a word names. -/
def rankOf? (word : String) : Option Nat :=
  match word.toLower with
  | "off" => some 0
  | "error" => some 1
  | "warn" => some 2
  | "info" => some 3
  | "debug" => some 4
  | "trace" => some 5
  | _ => none

/-- The filter with a directive in the place of the one for its topic. -/
def add (filter : LogFilter) (directive : Directive) : LogFilter :=
  if filter.directives.any (·.topic = directive.topic) then
    { filter with directives := filter.directives.map fun d =>
        if d.topic = directive.topic then directive else d }
  else { filter with directives := filter.directives ++ [directive] }

/-- A text without the blanks at its ends. -/
def trimmed (text : List Char) : List Char :=
  ((text.dropWhile Text.isBlank).reverse.dropWhile Text.isBlank).reverse

/-- The directive that a text stands for. A text that is none gives the part of it to complain of. -/
def directiveOf (written : List Char) : Except String Directive :=
  match Text.pieces '=' written with
  | [name] =>
    let name := String.ofList name
    match rankOf? name with
    | some rank => .ok ⟨none, rank⟩
    | none => .ok ⟨some name, Level.trace.rank⟩
  | [name, level] =>
    let level := String.ofList (trimmed level)
    if level = "" then .ok ⟨some (String.ofList name), Level.trace.rank⟩
    else match rankOf? level with
      | some rank => .ok ⟨some (String.ofList name), rank⟩
      | none => .error level
  | _ => .error (String.ofList written)

/-- The filter with the directives between commas, and what has to be complained of. -/
def addAll (filter : LogFilter) (written : List Char) : LogFilter × List String :=
  let parts := ((Text.pieces ',' written).map trimmed).filter (· ≠ [])
  parts.foldl (fun (filter, warnings) part =>
    match directiveOf part with
    | .ok directive => (filter.add directive, warnings)
    | .error bad => (filter, warnings ++ [s!"invalid logging spec '{bad}'"])) (filter, [])

/-- The filter with what a text says, and what has to be complained of. -/
def refine (filter : LogFilter) (written : String) : LogFilter × List String :=
  match Text.pieces '/' written.toList with
  | [directives] => filter.addAll directives
  | [directives, texts] =>
    let (filter, warnings) := filter.addAll directives
    match Pattern.parse? (String.ofList texts) with
    | some pattern => ({ filter with texts := some pattern }, warnings)
    | none => (filter, warnings ++ ["invalid regex filter - not a regular expression"])
  | _ => (filter, [s!"invalid logging spec '{written}' (too many '/'s)"])

/-- The number of bytes in the name of a directive's topic. -/
def Directive.length (directive : Directive) : Nat := (directive.topic.map String.utf8ByteSize).getD 0

/-- The rank that the filter has for a topic. -/
def rankFor (filter : LogFilter) (topic : Topic) : Nat :=
  let fits (d : Directive) : Bool :=
    d.topic.all fun start => start.toList.isPrefixOf topic.name.toList
  let sorted := filter.directives.mergeSort fun a b => Directive.length a ≤ Directive.length b
  ((sorted.reverse.find? fits).map (·.rank)).getD 0

def shows (filter : LogFilter) (line : LogLine) : Bool :=
  line.level.rank ≤ filter.rankFor line.topic && filter.texts.all (·.matchesIn line.text)

end LogFilter

end Bundler.CommandLine

namespace Bundler.LogLine

/-- How a line of the log is printed. Line breaks in its text are indented. -/
def shown (line : LogLine) : String :=
  let level := line.level.name
  let padded := level ++ String.ofList (List.replicate (5 - level.length) ' ')
  let text := line.text.toList.flatMap fun c => if c = '\n' then "\n    ".toList else [c]
  "[" ++ padded ++ " " ++ line.topic.name ++ "] " ++ String.ofList text

end Bundler.LogLine
