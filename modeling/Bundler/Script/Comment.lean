/-!
The comments of a script, kept by the token that they stand before or after, so that the printed
script has them again.
-/

namespace Bundler.Script

/-- A comment, without the marks around it. -/
structure Comment where
  block : Bool
  text : String
  deriving DecidableEq, Repr

/-- Comments by offset: the leading ones by the start of the token behind them, the trailing ones by
the end of the token before them. Newest first. -/
structure Comments where
  leading : List (Nat × Comment) := []
  trailing : List (Nat × Comment) := []
  deriving DecidableEq, Repr

namespace Comments

/-- The entries at an offset in their order, and the entries that are left. -/
def takeAt (offset : Nat) (entries : List (Nat × Comment)) : List Comment × List (Nat × Comment) :=
  let (here, rest) := entries.partition (·.1 = offset)
  (here.reverse.map (·.2), rest)

end Comments

end Bundler.Script
