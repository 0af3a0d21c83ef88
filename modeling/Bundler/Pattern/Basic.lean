import Bundler.Pattern.CharSet

/-!
Patterns and what they match. The places of a text are the numbers from zero to its length; `ends`
gives the places where a match can end that starts at one of some places. A set of places is a number
whose bits are the places in it, so that each step looks at all of them at once.
-/

namespace Bundler

namespace Pattern

/-- Conditions on a place that take no character. -/
inductive Assertion where
  | textStart | textEnd
  /-- The start or the end of a line; `crlf` says whether a carriage return ends lines too. -/
  | lineStart (crlf : Bool) | lineEnd (crlf : Bool)
  /-- A place where a word starts or ends. -/
  | wordBoundary (unicode : Bool) | notWordBoundary (unicode : Bool)
  | wordStart (unicode : Bool) | wordEnd (unicode : Bool)
  | wordStartHalf (unicode : Bool) | wordEndHalf (unicode : Bool)
  deriving DecidableEq, Repr

namespace Assertion

def isWordChar (unicode : Bool) (c : Option Char) : Bool :=
  c.any (if unicode then CharSet.word else CharSet.asciiWord).contains

/-- Whether the condition holds between two characters, which are absent at the ends. -/
def holds (a : Assertion) (before after : Option Char) : Bool :=
  let isWord (unicode : Bool) (c : Option Char) : Bool := isWordChar unicode c
  match a with
  | textStart => before.isNone
  | textEnd => after.isNone
  | lineStart false => before.all (· = '\n')
  | lineEnd false => after.all (· = '\n')
  | lineStart true => before.all (· = '\n') || (before = some '\r' && after ≠ some '\n')
  | lineEnd true => after.all (· = '\r') || (after = some '\n' && before ≠ some '\r')
  | wordBoundary u => isWord u before != isWord u after
  | notWordBoundary u => isWord u before == isWord u after
  | wordStart u => !isWord u before && isWord u after
  | wordEnd u => isWord u before && !isWord u after
  | wordStartHalf u => !isWord u before
  | wordEndHalf u => !isWord u after

/-- The places of a text where the condition holds. The text starts at a place, behind a character. -/
def places (a : Assertion) : Option Char → List Char → Nat → Nat
  | before, [], place => if a.holds before none then 1 <<< place else 0
  | before, c :: rest, place =>
    (if a.holds before (some c) then 1 <<< place else 0) ||| places a (some c) rest (place + 1)

end Assertion

namespace CharSet

/-- The places of a text before the characters of a set. -/
def places (set : CharSet) : List Char → Nat → Nat
  | [], _ => 0
  | c :: rest, place => (if set.contains c then 1 <<< place else 0) ||| places set rest (place + 1)

end CharSet

end Pattern

/-- A pattern: what stands one behind the other in a text. -/
inductive Pattern where
  /-- Matches where it stands and takes no character. -/
  | nothing
  /-- One character of a set. -/
  | chars (set : Pattern.CharSet)
  | assertion (a : Pattern.Assertion)
  | sequence (a b : Pattern)
  | choice (a b : Pattern)
  /-- Some number of repetitions, without a limit if `most` is absent. -/
  | repetition (a : Pattern) (least : Nat) (most : Option Nat)
  deriving Repr

namespace Pattern

/-- The places that `step` leads to in any number of rounds, at most `fuel`. -/
def closure (step : Nat → Nat) : Nat → Nat → Nat
  | 0, places => places
  | fuel + 1, places =>
    let more := places ||| step places
    if more = places then places else closure step fuel more

/-- The places that `step` leads to in exactly so many rounds. -/
def rounds (step : Nat → Nat) : Nat → Nat → Nat
  | 0, places => places
  | n + 1, places => if places = 0 then 0 else rounds step n (step places)

/-- The places where a match can end that starts at one of the given places. -/
def ends (text : List Char) : Pattern → Nat → Nat
  | nothing, places => places
  | chars set, places => (places &&& set.places text 0) <<< 1
  | assertion a, places => places &&& a.places none text 0
  | sequence a b, places => b.ends text (a.ends text places)
  | choice a b, places => a.ends text places ||| b.ends text places
  | repetition a least most, places =>
    let start := rounds (a.ends text) least places
    match most with
    | none => closure (a.ends text) (text.length + 1) start
    | some most => closure (a.ends text) (most - least) start

/-- Whether the pattern matches somewhere in a text. -/
def matchesIn (pattern : Pattern) (text : String) : Bool :=
  let text := text.toList
  pattern.ends text (1 <<< (text.length + 1) - 1) ≠ 0

end Pattern

end Bundler
