import Bundler.Host.FileTree
import Bundler.Text.Debug

/-!
A system that is a value: a file tree, the current directory, and the log so far.
-/

namespace Bundler

structure World where
  tree : FileTree
  /-- The current directory, unless it has been removed. -/
  current : Option Place
  log : List LogLine := []

/-- Work on a world. -/
abbrev Session := StateM World

namespace World

def remove (world : World) (place : Place) : World :=
  { world with
    tree := world.tree.drop place
    current := world.current.filter (!place.isPrefixOf ·) }

def move (world : World) (old new : Place) : World :=
  if old = new then world
  else
    { world with
      tree := world.tree.move old new
      current := (world.current.filter (!new.isPrefixOf ·)).map (FileTree.movedPlace old new) }

end World

namespace Session

/-- Work that gives a new tree or fails without one. -/
def update (change : World → Except FileError FileTree) : Session (Except FileError Unit) := do
  let world ← get
  match change world with
  | .ok tree =>
    set { world with tree }
    return .ok ()
  | .error e => return .error e

/-- Makes a new directory in another one and gives its absolute path. An error tells the path as well. -/
def createFreshDir (parent : Path) (start : String) : Session (Except FileError Path) := do
  let world ← get
  let base := if parent.isAbsolute then some parent
    else world.current.map fun here => (FileTree.pathOf here).join parent.text
  match base with
  | none => return .error .notFound
  | some base =>
    match world.tree.makeFreshDir world.current base start with
    | (path, .ok tree) =>
      set { world with tree }
      return .ok path
    | (path, .error e) => return .error (.other s!"{e.message} at path {Text.Debug.quote path.text}")

instance : Host Session where
  readText path := return (← get).tree.readText (← get).current path
  isFile path := return (← get).tree.isFile (← get).current path
  isPresent path := return (← get).tree.isPresent (← get).current path
  canonical path := return (FileTree.pathOf ·.1) <$> (← get).tree.look (← get).current path
  currentDir := return match (← get).current with
    | some place => .ok (FileTree.pathOf place)
    | none => .error .notFound
  createDirs path := do
    let world ← get
    let (tree, result) := world.tree.createDirs world.current path
    set { world with tree }
    return result
  createFreshDir := createFreshDir
  writeText path text := update fun world => world.tree.writeText world.current path text
  rename old new := do
    let world ← get
    match world.tree.route world.current old new with
    | .ok (source, target) =>
      set (world.move source target)
      return .ok ()
    | .error e => return .error e
  removeTree path := modify fun world =>
    match world.tree.locate world.current false path with
    | .ok place => world.remove place
    | .error _ => world
  log line := modify fun world => { world with log := world.log ++ [line] }

end Session

end Bundler
