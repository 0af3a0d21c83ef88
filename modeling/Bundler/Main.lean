import Bundler.CommandLine.Program

/-!
The program on the machine that it runs on.
-/

namespace Bundler.Machine

/-- Work on the machine, where the lines of the log are printed that a filter shows. -/
abbrev Work := ReaderT CommandLine.LogFilter IO

/-- Why the machine refused. -/
def fileError : IO.Error → FileError
  | .noFileOrDirectory .. => .notFound
  | .alreadyExists .. => .alreadyExists
  | .inappropriateType _ 21 _ => .isADirectory
  | .inappropriateType .. => .notADirectory
  | .resourceBusy .. => .busy
  | .unsatisfiedConstraints .. => .notEmpty
  | e => .other (toString e)

def attempt {α : Type} (action : IO α) : Work (Except FileError α) := do
  match ← action.toBaseIO with
  | .ok a => return .ok a
  | .error e => return .error (fileError e)

def readText (path : Path) : Work (Except FileError String) := do
  if path.text.contains '\x00' then return .error .zeroInPath
  match ← attempt (IO.FS.readBinFile path.text) with
  | .error e => return .error e
  | .ok bytes => match String.fromUTF8? bytes with
    | some text => return .ok text
    | none => return .error .notText

/-- What a path leads to, if it leads anywhere. -/
def kindOf (path : Path) : Work (Option IO.FS.FileType) := do
  match ← attempt (do (← IO.FS.realPath path.text).metadata) with
  | .ok found => return some found.type
  | .error _ => return none

/-- Makes a directory in another one whose name is that of no other. -/
def createFreshDir (parent : Path) (start : String) : Work (Except FileError Path) := do
  match ← attempt IO.currentDir with
  | .error e => return .error e
  | .ok current =>
    let base := (Path.mk current.toString).join parent.text
    let mut answer := .error .alreadyExists
    for _ in List.range 100 do
      let path := base.join (start ++ toString (← IO.rand 100000 999999))
      answer := (← attempt (IO.FS.createDir path.text)).map fun () => path
      match answer with
      | .error .alreadyExists => continue
      | _ => break
    return answer

instance : Host Work where
  readText := readText
  isFile path := return (← kindOf path) == some .file
  isPresent path := return (← kindOf path).isSome
  canonical path := attempt (do return ⟨(← IO.FS.realPath path.text).toString⟩)
  currentDir := attempt (do return ⟨(← IO.currentDir).toString⟩)
  createDirs path := attempt (IO.FS.createDirAll path.text)
  createFreshDir := createFreshDir
  writeText path text := attempt (IO.FS.writeFile path.text text)
  rename old new := attempt (IO.FS.rename old.text new.text)
  removeTree path := do let _ ← attempt (IO.FS.removeDirAll path.text)
  log line := do if (← read).shows line then IO.eprintln line.shown

/-- Does what the arguments ask for and gives the exit code. -/
def run (arguments : List String) : IO UInt32 := do
  match CommandLine.Task.of arguments (← IO.getEnv "RUST_LOG") with
  | .answer text =>
    IO.print text
    return 0
  | .refuse text =>
    IO.eprint text
    return 2
  | .build config filter warnings =>
    warnings.forM IO.eprint
    match ← (CommandLine.build config : Work _).run filter with
    | .ok () => return 0
    | .error e =>
      IO.eprint (CommandLine.report e.texts)
      return 1

end Bundler.Machine

def main (arguments : List String) : IO UInt32 := Bundler.Machine.run arguments
