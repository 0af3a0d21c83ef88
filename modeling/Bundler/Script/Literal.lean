import Bundler.Text.Hex

/-!
String literals for a value that was never written in a script: double quotes unless the text holds
more of them than of single ones, and escapes for what has no picture.
-/

namespace Bundler.Script.Literal

def hexDigitUpper (n : Nat) : Char := (Text.hexDigit n).toUpper

/-- What stands for a backslash. Before `u` it stays single where an escape of a surrogate half
follows, which is how such a half is kept in a value. -/
def backslash (rest : List Char) : List Char :=
  match rest with
  | 'u' :: a :: b :: c :: d :: _ =>
    let digits := [a, b, c, d].map Text.hexValue?
    match digits with
    | [some 13, some second, some _, some _] => if second ≥ 8 then ['\\'] else ['\\', '\\']
    | _ => ['\\', '\\']
  | _ => ['\\', '\\']

/-- What stands between the quotes for the characters of a value. -/
def escapes (quote : Char) : List Char → List Char
  | [] => []
  | c :: rest =>
    let n := c.toNat
    let here : List Char :=
      if n = 0 then
        if rest.head?.any (fun d => decide ('0' ≤ d ∧ d ≤ '9')) then "\\x00".toList else "\\0".toList
      else if n = 8 then "\\b".toList
      else if n = 12 then "\\f".toList
      else if c = '\n' then "\\n".toList
      else if c = '\r' then "\\r".toList
      else if n = 11 then "\\v".toList
      else if c = '\t' then ['\t']
      else if c = '\\' then backslash rest
      else if c = quote then ['\\', c]
      else if n < 0x10 then "\\x0".toList ++ [hexDigitUpper n]
      else if n < 0x20 then "\\x1".toList ++ [hexDigitUpper n]
      else if n = 0x2028 then "\\u2028".toList
      else if n = 0x2029 then "\\u2029".toList
      else if n = 0xFEFF then "\\uFEFF".toList
      else [c]
    here ++ escapes quote rest

/-- The literal whose value is `text`. -/
def quote (text : String) : String :=
  let chars := text.toList
  let q := if chars.count '"' > chars.count '\'' then '\'' else '"'
  String.ofList (q :: (escapes q chars ++ [q]))

end Bundler.Script.Literal
