import Bundler.Path.Segments

/-!
Paths of a Unix file system. A path keeps the text it was written with, since messages show it;
two paths name places through their segments. Only paths that are Unicode text are looked at: names
with other bytes in them, which a message or an id could show only in part, do not occur here.
-/

namespace Bundler

/-- A path as it was written. -/
structure Path where
  text : String
  deriving DecidableEq, Repr, Inhabited

namespace Path

instance : ToString Path := ⟨Path.text⟩

/-- Whether the path starts at the root of the file system. -/
def isAbsolute (path : Path) : Bool := path.text.toList.head? == some '/'

/-- The segments of the path that say something. -/
def parts (path : Path) : List String := segments path.text

/-- The path with the given segments. -/
def ofParts (absolute : Bool) (parts : List String) : Path :=
  ⟨(if absolute then "/" else "") ++ slashed parts⟩

/-- The path with `.` and `..` collapsed by its text alone. A `..` at the start of a relative path
stays, and one directly below the root is dropped. -/
def normalize (path : Path) : Path :=
  ofParts path.isAbsolute (collapse path.isAbsolute path.parts)

/-- The place that `other` names when `base` is the current directory. -/
def join (base : Path) (other : String) : Path :=
  if other.toList.head? = some '/' then ⟨other⟩
  else if base.text = "" then ⟨other⟩
  else if base.text.toList.getLast? = some '/' then ⟨base.text ++ other⟩
  else ⟨base.text ++ "/" ++ other⟩

/-- The path without its last segment, none for the root and the empty path. -/
def parent? (path : Path) : Option Path :=
  match path.parts.reverse with
  | [] => none
  | _ :: rest =>
    let leading := Text.pieces '/' path.text.toList
    let here := leading.head? = some ['.'] ∧ leading.length > 1
    some (if here ∧ rest = [] then ⟨"."⟩
      else if here then ⟨"./" ++ slashed rest.reverse⟩
      else ofParts path.isAbsolute rest.reverse)

/-- Whether `path` is `base` or lies below it, segment by segment. -/
def startsWith (path base : Path) : Bool :=
  (path.isAbsolute || !base.isAbsolute) && (!path.isAbsolute || base.isAbsolute || base.parts.isEmpty)
    && base.parts.isPrefixOf path.parts

/-- The segments of `path` below `base`. -/
def below? (path base : Path) : Option (List String) :=
  if path.startsWith base then some (path.parts.drop base.parts.length) else none

end Path

end Bundler
