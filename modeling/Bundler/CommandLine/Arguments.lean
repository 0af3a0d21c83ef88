import Bundler.CommandLine.Similarity

/-!
The arguments of the program. Options are read from left to right; the first that cannot be read, and
the first that asks for help or the version, ends the reading.
-/

namespace Bundler.CommandLine

inductive Switch where
  | config | verbose | help | version
  deriving DecidableEq, Repr

namespace Switch

def all : List Switch := [config, verbose, help, version]

def long : Switch → String
  | config => "config"
  | verbose => "verbose"
  | help => "help"
  | version => "version"

def ofLong? (name : String) : Option Switch := all.find? (·.long = name)

def ofShort? : Char → Option Switch
  | 'c' => some config
  | 'v' => some verbose
  | 'h' => some help
  | 'V' => some version
  | _ => none

/-- How messages write the option. -/
def shown : Switch → String
  | config => "--config <CONFIG>"
  | verbose => "--verbose..."
  | help => "--help"
  | version => "--version"

end Switch

/-- What the arguments ask for. -/
inductive Request where
  | build (config : Option String) (verbosity : Nat)
  | help
  | version
  deriving DecidableEq, Repr

/-- Why arguments cannot be read. -/
inductive UsageError where
  | repeated (switch : Switch)
  | noValue (switch : Switch)
  /-- A value for an option that takes none, and the options before it. -/
  | surplus (switch : Switch) (value : String) (used : List Switch)
  /-- An argument that is no option, one that is alike, and the options before it. -/
  | unknown (argument : String) (similar : Option Switch) (used : List Switch)
  deriving DecidableEq, Repr

namespace UsageError

/-- The line that says how the program is called. -/
def usage (used : List Switch) : String :=
  "\n\nUsage: packrat " ++ if used.isEmpty then "[OPTIONS]" else " ".intercalate (used.map Switch.shown)

def summary : UsageError → String
  | repeated switch => s!"the argument '{switch.shown}' cannot be used multiple times" ++ usage []
  | noValue switch => s!"a value is required for '{switch.shown}' but none was supplied"
  | surplus switch value used =>
    s!"unexpected value '{value}' for '{switch.shown}' found; no more were expected" ++ usage used
  | unknown argument none used => s!"unexpected argument '{argument}' found" ++ usage used
  | unknown argument (some similar) used =>
    s!"unexpected argument '{argument}' found\n\n  tip: a similar argument exists: '--{similar.long}'" ++
      usage used

def message (e : UsageError) : String := s!"error: {e.summary}\n\nFor more information, try '--help'.\n"

end UsageError

structure Arguments where
  config : Option String := none
  verbosity : Nat := 0
  /-- The options so far, in the order of their last use. -/
  used : List Switch := []
  /-- Whether the next argument is a value, where it is none of the options. -/
  expecting : Bool := false

namespace Arguments

/-- An end of reading before the last argument. -/
inductive Stop where
  | request (request : Request)
  | error (e : UsageError)

def use (arguments : Arguments) (switch : Switch) : Arguments :=
  { arguments with used := arguments.used.filter (· ≠ switch) ++ [switch] }

/-- The arguments with a value for the configuration file. -/
def setConfig (arguments : Arguments) (value : String) : Except Stop Arguments :=
  if arguments.config.isSome then .error (.error (.repeated .config))
  else if value = "" then .error (.error (.noValue .config))
  else .ok { arguments.use .config with config := some value, expecting := false }

/-- The arguments where no value is missing. -/
def settled (arguments : Arguments) : Except Stop Arguments :=
  if arguments.expecting then .error (.error (.noValue .config)) else .ok arguments

def flag (arguments : Arguments) (switch : Switch) : Except Stop Arguments := do
  let arguments ← arguments.settled
  match switch with
  | .help => .error (.request .help)
  | .version => .error (.request .version)
  | _ => .ok { arguments.use .verbose with verbosity := arguments.verbosity + 1 }

/-- The arguments with the option that takes a value, and what is attached to it. -/
def option (arguments : Arguments) (attached : Option String) : Except Stop Arguments := do
  match attached with
  | some value => arguments.settled.bind (·.setConfig value)
  | none =>
    let arguments ← arguments.settled
    .ok { arguments with expecting := true }

/-- The arguments with a long option, without its hyphens. -/
def long (arguments : Arguments) (written : String) : Except Stop Arguments :=
  let (name, rest) := written.toList.span (· ≠ '=')
  let name := String.ofList name
  let attached := match rest with
    | [] => none
    | _ :: value => some (String.ofList value)
  match Switch.ofLong? name, attached with
  | some .config, _ => arguments.option attached
  | some switch, none => arguments.flag switch
  | some switch, some value => .error (.error (.surplus switch value arguments.used))
  | none, _ =>
    let similar := (mostAlike? name (Switch.all.map Switch.long)).bind Switch.ofLong?
    let used := match similar with
      | some switch => if arguments.used.contains switch then arguments.used else arguments.used ++ [switch]
      | none => arguments.used
    .error (.error (.unknown ("--" ++ name) similar used))

/-- The arguments with short options behind one hyphen. -/
def short (arguments : Arguments) : List Char → Except Stop Arguments
  | [] => .ok arguments
  | c :: rest =>
    match Switch.ofShort? c with
    | some .config =>
      arguments.option (match rest with
        | [] => none
        | '=' :: value => some (String.ofList value)
        | value => some (String.ofList value))
    | some switch => arguments.flag switch |>.bind fun arguments => short arguments rest
    | none => .error (.error (.unknown (String.ofList ['-', c]) none []))

/-- The arguments with one that is no option. -/
def plain (arguments : Arguments) (argument : String) : Except Stop Arguments :=
  if arguments.expecting then { arguments with expecting := false }.setConfig argument
  else .error (.error (.unknown argument none []))

def readAll (arguments : Arguments) : List String → Except Stop Arguments
  | [] => arguments.settled
  | argument :: rest => do
    match argument.toList with
    | ['-', '-'] =>
      match rest with
      | [] => arguments.settled
      | next :: _ => .error (.error (.unknown next none []))
    | '-' :: '-' :: written => readAll (← arguments.long (String.ofList written)) rest
    | '-' :: c :: written => readAll (← arguments.short (c :: written)) rest
    | _ => readAll (← arguments.plain argument) rest

end Arguments

/-- What the arguments of the program ask for. -/
def Request.ofArguments (arguments : List String) : Except UsageError Request :=
  match Arguments.readAll {} arguments with
  | .ok read => .ok (.build read.config read.verbosity)
  | .error (.request request) => .ok request
  | .error (.error e) => .error e

/-- What the program says about itself. -/
def helpText : String :=
  "Bundle a CommonJS module graph into a single JavaScript file\n\n" ++
  "Usage: packrat [OPTIONS]\n\n" ++
  "Options:\n" ++
  "  -c, --config <CONFIG>  Configuration file to use instead of ./packrat.toml\n" ++
  "  -v, --verbose...       Increase log verbosity (-v info, -vv debug, -vvv trace)\n" ++
  "  -h, --help             Print help\n" ++
  "  -V, --version          Print version\n"

def versionText : String := "packrat 0.1.0\n"

end Bundler.CommandLine
