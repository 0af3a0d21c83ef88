import Bundler.Text.Category
import Bundler.Text.Hex

/-!
Texts in the form that logs and messages quote them: quotes, backslashes and everything that has no
picture of its own is escaped.
-/

namespace Bundler.Text.Debug

/-- Whether a character joins the one before it, so that it cannot be shown alone. -/
def joins (c : Char) : Bool :=
  c.toNat ≥ 0x300 && (c.toNat = 0x200C || (0xFF9E ≤ c.toNat && c.toNat ≤ 0xFF9F) ||
    match Category.of c with
    | .mn | .me => true
    | _ => false)

/-- Whether a character has a picture. -/
def printable (c : Char) : Bool :=
  c = ' ' || match Category.of c with
    | .cc | .cf | .cs | .co | .cn | .zl | .zp | .zs => false
    | _ => true

/-- What stands for a character between the given quotes. -/
def escapeChar (quote c : Char) : List Char :=
  if c = '\x00' then ['\\', '0']
  else if c = '\t' then ['\\', 't']
  else if c = '\r' then ['\\', 'r']
  else if c = '\n' then ['\\', 'n']
  else if c = quote || c = '\\' then ['\\', c]
  else if joins c || !printable c then "\\u\x7b".toList ++ hex c.toNat ++ ['\x7d']
  else [c]

/-- A text between double quotes. -/
def quote (text : String) : String :=
  String.ofList ('"' :: (text.toList.flatMap (escapeChar '"') ++ ['"']))

/-- A character between single quotes. -/
def quoteChar (c : Char) : String := String.ofList ('\'' :: (escapeChar '\'' c ++ ['\'']))

end Bundler.Text.Debug
