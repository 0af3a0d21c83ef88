import Bundler.Path.Basic
import Bundler.Text.ByteOrderMark
import Bundler.Text.Debug
import Bundler.Text.Quoted

/-!
Transforms of sources. A transform gets the content of a file and its path, and gives what takes
the place of the content before it is read as a script.
-/

namespace Bundler

/-- A transform under its name. -/
inductive Transform where
  /-- Removes a byte order mark. -/
  | stripBom
  /-- Makes a module of a JSON document, which exports the value. -/
  | json
  /-- Makes a module of any content, which exports it as a string. -/
  | text
  | custom (name : String) (run : String → Path → Except String String)

namespace Transform

def name : Transform → String
  | stripBom => "strip-bom"
  | json => "json"
  | text => "text"
  | custom name _ => name

/-- What the transform makes of a source, or why it fails. -/
def run : Transform → String → Path → Except String String
  | stripBom, source, _ => .ok (Text.stripByteOrderMark source)
  | json, source, _ =>
    .ok ("module.exports = JSON.parse(" ++ Text.Quoted.quote (Text.stripByteOrderMark source) ++ ");")
  | text, source, _ => .ok ("module.exports = " ++ Text.Quoted.quote source ++ ";")
  | custom _ run, source, path => run source path

def shown : Transform → String
  | stripBom => "StripBom"
  | json => "JsonModule"
  | text => "TextModule"
  | custom name _ => "FnTransform \x7b name: " ++ Text.Debug.quote name ++ ", .. \x7d"

end Transform

end Bundler
