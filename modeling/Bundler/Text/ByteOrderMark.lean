/-!
The byte order mark that may stand at the start of a text.
-/

namespace Bundler.Text

def byteOrderMark : Char := '\uFEFF'

/-- A text without the byte order mark at its start; a second mark stays. -/
def stripByteOrderMark (text : String) : String :=
  match text.toList with
  | c :: rest => if c = byteOrderMark then String.ofList rest else text
  | [] => text

end Bundler.Text
