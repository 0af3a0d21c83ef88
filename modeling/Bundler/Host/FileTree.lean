import Bundler.Host.Basic

/-!
File systems as values. A place is the list of names that lead to it from the root. A path leads to a
place through the directories it names, symbolic links included; what operations do is said on
places.
-/

namespace Bundler

/-- The names that lead to a place from the root. -/
abbrev Place := List String

/-- What a file holds: a text, or bytes that are none. -/
inductive Content where
  | text (held : String)
  | bytes (held : List UInt8)
  deriving DecidableEq

namespace Content

def ofBytes (read : ByteArray) : Content :=
  match String.fromUTF8? read with
  | some decoded => .text decoded
  | none => .bytes read.data.toList

def size : Content → Nat
  | text held => held.utf8ByteSize
  | bytes held => held.length

end Content

inductive Item where
  | directory
  | file (content : Content)
  | link (target : String)
  deriving DecidableEq

/-- What stands where, the root left out. -/
structure FileTree where
  entries : List (Place × Item)

/-- The names of a path, with a `.` behind a slash at the end, where only a directory can stand. -/
def Path.names (path : String) : List String :=
  let pieces := (Text.pieces '/' path.toList).filter (· ≠ [])
  let last := if path.toList.getLast? = some '/' ∧ pieces ≠ [] then [['.']] else []
  (pieces ++ last).map String.ofList

namespace FileTree

def empty : FileTree := ⟨[]⟩

def at? (tree : FileTree) (place : Place) : Option Item :=
  if place = [] then some .directory else (tree.entries.find? (·.1 = place)).map (·.2)

/-- The tree with `item` at a place. -/
def put (tree : FileTree) (place : Place) (item : Item) : FileTree :=
  ⟨(place, item) :: tree.entries.filter (·.1 ≠ place)⟩

/-- The tree without what stands at a place and below it. -/
def drop (tree : FileTree) (place : Place) : FileTree :=
  ⟨tree.entries.filter (!place.isPrefixOf ·.1)⟩

/-- Whether nothing stands below a place. -/
def isBare (tree : FileTree) (place : Place) : Bool :=
  tree.entries.all fun entry => !place.isPrefixOf entry.1 || entry.1 = place

/-- The place with `new` for `old` at its start, if that is where it starts. -/
def movedPlace (old new place : Place) : Place :=
  if old.isPrefixOf place then new ++ place.drop old.length else place

/-- The tree with what stands at a place and below it at another one. -/
def move (tree : FileTree) (old new : Place) : FileTree :=
  ⟨(tree.drop new).entries.map fun entry => (movedPlace old new entry.1, entry.2)⟩

def maxName : Nat := 255

def maxPath : Nat := 4095

def maxLinks : Nat := 40

/-- The place that some names lead to, up to the first link that is to be followed: the last one only where
`followLast`. There `follow` goes on, from where the target starts. The place itself may be free. -/
def walkTo (tree : FileTree) (followLast : Bool) (follow : Place → List String → Except FileError Place) :
    Place → List String → Except FileError Place
  | here, [] => .ok here
  | here, name :: rest =>
    if name = "." then walkTo tree followLast follow here rest
    else if name = ".." then walkTo tree followLast follow here.dropLast rest
    else if name.utf8ByteSize > maxName then .error .nameTooLong
    else match tree.at? (here ++ [name]) with
      | none => if rest = [] then .ok (here ++ [name]) else .error .notFound
      | some .directory => walkTo tree followLast follow (here ++ [name]) rest
      | some (.file _) => if rest = [] then .ok (here ++ [name]) else .error .notADirectory
      | some (.link target) =>
        if rest = [] ∧ ¬followLast then .ok (here ++ [name])
        else follow (if target.toList.head? = some '/' then [] else here) (Path.names target ++ rest)

/-- The place that some names lead to, where at most so many links are followed. -/
def walk (tree : FileTree) (followLast : Bool) : Nat → Place → List String → Except FileError Place
  | 0 => tree.walkTo followLast fun _ _ => .error .tooManyLinks
  | links + 1 => tree.walkTo followLast (walk tree followLast links)

/-- The place that a path leads to from the current directory, which may be gone. -/
def locate (tree : FileTree) (current : Option Place) (followLast : Bool) (path : Path) :
    Except FileError Place :=
  if '\x00' ∈ path.text.toList then .error .zeroInPath
  else if path.text = "" then .error .notFound
  else if path.text.utf8ByteSize > maxPath then .error .nameTooLong
  else match path.isAbsolute, current with
    | true, _ => walk tree followLast maxLinks [] (Path.names path.text)
    | false, some here => walk tree followLast maxLinks here (Path.names path.text)
    | false, none => .error .notFound

def pathOf (place : Place) : Path := ⟨"/" ++ Path.slashed place⟩

/-- The place of a path and what stands there. -/
def look (tree : FileTree) (current : Option Place) (path : Path) : Except FileError (Place × Item) := do
  let place ← tree.locate current true path
  match tree.at? place with
  | some item => .ok (place, item)
  | none => .error .notFound

def readText (tree : FileTree) (current : Option Place) (path : Path) : Except FileError String := do
  match (← tree.look current path).2 with
  | .file (.text text) => .ok text
  | .file (.bytes _) => .error .notText
  | .directory => .error .isADirectory
  | .link _ => .error .tooManyLinks

def isFile (tree : FileTree) (current : Option Place) (path : Path) : Bool :=
  match tree.look current path with
  | .ok (_, .file _) => true
  | _ => false

def isDirectory (tree : FileTree) (current : Option Place) (path : Path) : Bool :=
  match tree.look current path with
  | .ok (_, .directory) => true
  | _ => false

def isPresent (tree : FileTree) (current : Option Place) (path : Path) : Bool :=
  (tree.look current path).isOk

/-- Whether a path ends with a name, so that what it names can be moved. -/
def endsWithName (path : Path) : Bool :=
  match (Path.names path.text).getLast? with
  | none => false
  | some name => name ≠ "." && name ≠ ".."

def makeDir (tree : FileTree) (current : Option Place) (path : Path) : Except FileError FileTree := do
  let place ← tree.locate current false path
  match tree.at? place with
  | some _ => .error .alreadyExists
  | none => .ok (tree.put place .directory)

/-- The paths of a directory and of those above it, the lowest first. -/
def lineage (path : Path) : Nat → List Path
  | 0 => [path]
  | n + 1 => path :: match path.parent? with
    | some parent => if parent.text = "" then [] else lineage parent n
    | none => []

/-- The tree with a directory, where one that stands there already will do. -/
def ensureDir (tree : FileTree) (current : Option Place) (path : Path) : Except FileError FileTree :=
  match tree.makeDir current path with
  | .ok tree => .ok tree
  | .error e => if tree.isDirectory current path then .ok tree else .error e

/-- The tree with directories under some paths, of which the next one is missing whenever the one
before it cannot be made for want of it. -/
def ensureDirs (tree : FileTree) (current : Option Place) : List Path → FileTree × Except FileError Unit
  | [] => (tree, .ok ())
  | path :: above =>
    match tree.ensureDir current path with
    | .ok tree => (tree, .ok ())
    | .error .notFound =>
      if above = [] then (tree, .error .notFound)
      else match tree.ensureDirs current above with
        | (tree, .ok ()) => match tree.ensureDir current path with
          | .ok tree => (tree, .ok ())
          | .error e => (tree, .error e)
        | (tree, .error e) => (tree, .error e)
    | .error e => (tree, .error e)

/-- The tree with a directory and those above it that were missing; what was made before a failure
stays. -/
def createDirs (tree : FileTree) (current : Option Place) (path : Path) : FileTree × Except FileError Unit :=
  if path.text = "" then (tree, .ok ())
  else tree.ensureDirs current (lineage path path.parts.length)

/-- The tree with a text in a file, which is made or replaced. -/
def writeText (tree : FileTree) (current : Option Place) (path : Path) (text : String) :
    Except FileError FileTree := do
  let place ← tree.locate current true path
  match tree.at? place with
  | some .directory => .error .isADirectory
  | _ => .ok (tree.put place (.file (.text text)))

/-- Why something cannot be moved over what stands at a place. -/
def obstacle? (tree : FileTree) (old : Place) (moved : Item) (new : Place) : Option FileError :=
  if old.isPrefixOf new ∧ old ≠ new then some .invalidArgument
  else if new.isPrefixOf old ∧ old ≠ new then some .notEmpty
  else match moved, tree.at? new with
    | _, none => none
    | .directory, some .directory => if tree.isBare new then none else some .notEmpty
    | .directory, some _ => some .notADirectory
    | _, some .directory => some .isADirectory
    | _, some _ => none

/-- The places of a move that can be made. -/
def route (tree : FileTree) (current : Option Place) (old new : Path) : Except FileError (Place × Place) := do
  let source ← tree.locate current false old
  let target ← tree.locate current false new
  if !endsWithName old || !endsWithName new then .error .busy
  else match tree.at? source with
    | none => .error .notFound
    | some moved => match tree.obstacle? source moved target with
      | some e => .error e
      | none => .ok (source, target)

/-- What tells new names apart. -/
def freshEnd (n : Nat) : String := String.ofList (List.leftpad 6 '0' (Nat.toDigits 10 n))

/-- The path of a new directory in another one, and the tree with it. Names that start with the given text are tried
until one of them is free. -/
def makeFreshDir (tree : FileTree) (current : Option Place) (base : Path) (start : String) :
    Path × Except FileError FileTree :=
  let path (n : Nat) : Path := base.join (start ++ freshEnd n)
  let taken (n : Nat) : Bool := match tree.makeDir current (path n) with
    | .error .alreadyExists => true
    | _ => false
  let first := ((List.range tree.entries.length).find? (!taken ·)).getD tree.entries.length
  (path first, tree.makeDir current (path first))

end FileTree

end Bundler
