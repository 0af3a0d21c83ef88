import Bundler.Text.Hex

/-!
String literals between double quotes, as the bundle and the text transforms write them: quotes,
backslashes, control characters and the two line separators are escaped, all else stands for itself.
-/

namespace Bundler.Text.Quoted

/-- What stands between the quotes for one character. -/
def escapeChar (c : Char) : List Char :=
  match c with
  | '"' => ['\\', '"']
  | '\\' => ['\\', '\\']
  | '\n' => ['\\', 'n']
  | '\r' => ['\\', 'r']
  | '\t' => ['\\', 't']
  | '\u2028' => ['\\', 'u', '2', '0', '2', '8']
  | '\u2029' => ['\\', 'u', '2', '0', '2', '9']
  | _ => if c.toNat < 0x20 then '\\' :: 'u' :: hexFour c.toNat else [c]

/-- What stands between the quotes for a text. -/
def escapeChars (cs : List Char) : List Char := cs.flatMap escapeChar

/-- A text, escaped for a place between double quotes. -/
def escape (text : String) : String := String.ofList (escapeChars text.toList)

/-- The literal whose value is `text`. -/
def quote (text : String) : String := String.ofList ('"' :: (escapeChars text.toList ++ ['"']))

end Bundler.Text.Quoted
