import Bundler.Path.Basic

/-!
What a build needs from the system that it runs on: files, the current directory, and a log.
-/

namespace Bundler

/-- Why an operation on files failed. -/
inductive FileError where
  | notFound
  | notADirectory
  | isADirectory
  | alreadyExists
  | notEmpty
  | tooManyLinks
  | nameTooLong
  | busy
  | invalidArgument
  /-- The file is not a text. -/
  | notText
  /-- A path with a character that no path can have. -/
  | zeroInPath
  /-- Anything else, in the words of the system. -/
  | other (text : String)
  deriving DecidableEq, Repr

namespace FileError

def message : FileError → String
  | notFound => "No such file or directory (os error 2)"
  | busy => "Device or resource busy (os error 16)"
  | alreadyExists => "File exists (os error 17)"
  | notADirectory => "Not a directory (os error 20)"
  | isADirectory => "Is a directory (os error 21)"
  | invalidArgument => "Invalid argument (os error 22)"
  | nameTooLong => "File name too long (os error 36)"
  | notEmpty => "Directory not empty (os error 39)"
  | tooManyLinks => "Too many levels of symbolic links (os error 40)"
  | notText => "stream did not contain valid UTF-8"
  | zeroInPath => "file name contained an unexpected NUL byte"
  | other text => text

end FileError

inductive Level where
  | error | warn | info | debug | trace
  deriving DecidableEq, Repr

namespace Level

def rank : Level → Nat
  | error => 1
  | warn => 2
  | info => 3
  | debug => 4
  | trace => 5

def name : Level → String
  | error => "ERROR"
  | warn => "WARN"
  | info => "INFO"
  | debug => "DEBUG"
  | trace => "TRACE"

end Level

/-- The part of a build that a line of the log comes from. -/
inductive Topic where
  | program | config | compiler | hooks | search | loader | rewriting | emitter
  deriving DecidableEq, Repr

namespace Topic

def name : Topic → String
  | program => "packrat"
  | config => "packrat::config"
  | compiler => "packrat::compiler"
  | hooks => "packrat::plugin"
  | search => "packrat::graph_builder"
  | loader => "packrat::loader"
  | rewriting => "packrat::rewriter"
  | emitter => "packrat::emitter"

end Topic

structure LogLine where
  level : Level
  topic : Topic
  text : String
  deriving DecidableEq, Repr

/-- The system under a build. -/
class Host (m : Type → Type) where
  readText : Path → m (Except FileError String)
  /-- Whether a path leads to a file. -/
  isFile : Path → m Bool
  /-- Whether a path leads to a file or a directory. -/
  isPresent : Path → m Bool
  /-- The absolute path of a place, without symbolic links. -/
  canonical : Path → m (Except FileError Path)
  currentDir : m (Except FileError Path)
  /-- Makes a directory and those above it that are missing. -/
  createDirs : Path → m (Except FileError Unit)
  /-- Makes a directory in another one, under a name that starts with the given text and is new. -/
  createFreshDir : Path → String → m (Except FileError Path)
  /-- Puts a text into a file, which is made or replaced. -/
  writeText : Path → String → m (Except FileError Unit)
  rename : Path → Path → m (Except FileError Unit)
  /-- Removes a directory with everything in it, as far as that can be done. -/
  removeTree : Path → m Unit
  log : LogLine → m Unit

end Bundler
