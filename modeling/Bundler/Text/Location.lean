import Bundler.Text.Width

/-!
Where an offset stands: its line and its column on the screen, both from one on. A line ends at a
line feed, a carriage return, or both together.
-/

namespace Bundler.Text

structure Location where
  line : Nat
  column : Nat
  deriving DecidableEq, Repr

namespace Location

/-- The location behind the characters of a text up to an offset, from a location on. -/
def walk : Nat → List Char → Location → Location
  | 0, _, here => here
  | _, [], here => here
  | offset + 1, c :: rest, here =>
    if c = '\n' || (c = '\r' && rest.head? ≠ some '\n') then walk offset rest ⟨here.line + 1, 1⟩
    else walk offset rest { here with column := here.column + width c }

/-- The location of an offset. -/
def of (text : String) (offset : Nat) : Location := walk offset text.toList ⟨1, 1⟩

end Location

end Bundler.Text
