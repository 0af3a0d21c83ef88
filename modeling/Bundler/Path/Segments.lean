import Bundler.Text.Pieces

/-!
The segments of a slash-separated text, and their collapse: a `..` takes back the segment before
it. Paths and module ids are both built from collapsed segments.
-/

namespace Bundler.Path

/-- The segments of a text between slashes that say something: neither empty nor `.`. -/
def segments (text : String) : List String :=
  ((Text.pieces '/' text.toList).filter (fun piece => piece ≠ [] ∧ piece ≠ ['.'])).map String.ofList

/-- One more segment on a stack of collapsed segments, innermost first. Where `bounded`, a `..` at
the bottom is lost, as below the root of the file system; otherwise it stays. -/
def push (bounded : Bool) (stack : List String) (segment : String) : List String :=
  if segment = ".." then
    match stack with
    | [] => if bounded then [] else [".."]
    | top :: rest => if top = ".." then ".." :: top :: rest else rest
  else segment :: stack

/-- The segments that are left when every `..` has taken back what it can. -/
def collapse (bounded : Bool) (parts : List String) : List String :=
  (parts.foldl (push bounded) []).reverse

/-- The segments with slashes between them. -/
def slashed (parts : List String) : String := "/".intercalate parts

/-- A text with a slash for every backslash. -/
def toSlashes (text : String) : String :=
  String.ofList (text.toList.map fun c => if c = '\\' then '/' else c)

end Bundler.Path
