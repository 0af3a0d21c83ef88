import Bundler.Text.Category

/-!
The characters of script identifiers.
-/

namespace Bundler.Text

/-- Whether a character may start an identifier. -/
def isIdentifierStart (c : Char) : Bool :=
  let n := c.toNat
  if n < 0x80 then c.isAlpha || c = '_' || c = '$'
  else if n = 0x2E2F then false
  else if n = 0x1885 || n = 0x1886 || n = 0x2118 || n = 0x212E || n = 0x309B || n = 0x309C then true
  else match Category.of c with
    | .lu | .ll | .lt | .lm | .lo | .nl => true
    | _ => false

/-- Whether a character may follow in an identifier. -/
def isIdentifierPart (c : Char) : Bool :=
  let n := c.toNat
  if n < 0x80 then c.isAlphanum || c = '_' || c = '$'
  else if n = 0x200C || n = 0x200D || n = 0xB7 || n = 0x387 || n = 0x19DA then true
  else if 0x1369 ≤ n && n ≤ 0x1371 then true
  else isIdentifierStart c || match Category.of c with
    | .mn | .mc | .nd | .pc => true
    | _ => false

end Bundler.Text
