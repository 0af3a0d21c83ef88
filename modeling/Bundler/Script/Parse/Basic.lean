import Bundler.Script.Reader
import Bundler.Script.Syntax

/-!
What all parts of the parser share: looking at tokens, consuming them, and complaining. A complaint
either stops the parser or is noted while it goes on; a script with any complaint is refused.
-/

namespace Bundler.Script

/-- Parsers read from a reader in some surroundings. What was noted stays noted when one stops. -/
abbrev Parse := ReaderT Context (ExceptT SyntaxError (StateM Reader))

namespace Parse

/-! ### Looking -/

/-- The current token, none at the end. -/
def current : Parse (Option Lexeme) := do
  let context ← read
  modify (·.look context)
  return (← get).current

def token? : Parse (Option Token) := return (← current).map (·.token)

/-- The token behind the current one. -/
def next? : Parse (Option Lexeme) := do
  let _ ← current
  let context ← read
  modify (·.lookNext context)
  return (← get).next

def isAt (token : Token) : Parse Bool := return (← token?) == some token

def isAtMark (m : Mark) : Parse Bool := isAt (.mark m)

def isAtWord (word : Keyword) : Parse Bool := isAt (.keyword word)

def isAtName (name : String) : Parse Bool := isAt (.ident name)

def isAtEnd : Parse Bool := return (← current).isNone

def isNextMark (m : Mark) : Parse Bool := return (← next?).any (·.token == .mark m)

/-- Whether a line break or nothing stands before the current token. -/
def newlineBefore : Parse Bool := return (← current).all (·.newline)

def newlineBeforeNext : Parse Bool := return (← next?).all (·.newline)

/-- Whether a statement may end here. -/
def isAtSemicolon : Parse Bool := do
  match ← token? with
  | none => return true
  | some (.mark .semicolon) => return true
  | some (.mark .closeBrace) => return true
  | some _ => newlineBefore

/-- Whether the current token may name a variable. -/
def isAtBindable : Parse Bool := do
  let context ← read
  match ← token? with
  | some (.ident name) => return !context.reserves name
  | some (.keyword word) => return !context.reserves word.text
  | _ => return false

/-! ### Offsets -/

/-- The start of the current token, at the end of the source the end of the last one. -/
def position : Parse Nat := do
  match ← current with
  | some lexeme => return lexeme.lo
  | none => return (← get).previousHi

def lastEnd : Parse Nat := return (← get).previousHi

def lastStart : Parse Nat := return (← get).previousLo

/-- The start of the current token if it has been looked at, and of the one before it otherwise. -/
def place : Parse Nat := do
  let reader ← get
  return match reader.current with
    | some lexeme => lexeme.lo
    | none => reader.previousLo

/-! ### Consuming -/

def advance : Parse Unit := do
  let _ ← current
  modify (·.advance)

def eat (token : Token) : Parse Bool := do
  if ← isAt token then
    advance
    return true
  return false

def eatMark (m : Mark) : Parse Bool := eat (.mark m)

def eatWord (word : Keyword) : Parse Bool := eat (.keyword word)

/-- Consumes the semicolon of a statement, which may be left out where a statement may end. -/
def eatSemicolon : Parse Bool := do
  if ← eatMark .semicolon then return true
  isAtSemicolon

/-! ### Complaining -/

def note (error : SyntaxError) : Parse Unit :=
  modify fun reader => { reader with problems := error :: reader.problems }

def noteAt (offset : Nat) (problem : Problem) : Parse Unit := note ⟨offset, problem⟩

def noteHere (problem : Problem) : Parse Unit := do noteAt (← place) problem

def failAt {α : Type} (offset : Nat) (problem : Problem) : Parse α := throw ⟨offset, problem⟩

def failHere {α : Type} (problem : Problem) : Parse α := do failAt (← place) problem

/-- How messages show the current token. -/
def shown : Parse String := return ((← token?).map Token.shown).getD "<eof>"

def unexpected {α : Type} (wanted : String) : Parse α := do
  let found ← shown
  failHere (.unexpectedToken found wanted)

/-- The current token, which must be there. -/
def require : Parse Token := do
  match ← token? with
  | some (.failed e) =>
    advance
    throw e
  | some token => return token
  | none => throw ⟨← lastEnd, .unexpectedEnd⟩

/-- The current token if it is one; a piece that is none is dropped. -/
def soft? : Parse (Option Token) := do
  match ← token? with
  | some (.failed e) =>
    advance
    throw e
  | token => return token

def expectToken (token : Token) : Parse Unit := do
  if ← eat token then return
  let found ← shown
  failHere (.expected token.shown found)

def expect (m : Mark) : Parse Unit := expectToken (.mark m)

def expectWord (word : Keyword) : Parse Unit := expectToken (.keyword word)

def expectSemicolon : Parse Unit := do
  if ← eatSemicolon then return
  let found ← shown
  failHere (.expected ";" found)

/-! ### Structure -/

/-- Runs a step from state to state until it gives a result. -/
def repeatFrom {σ α : Type} (step : σ → Parse (σ ⊕ α)) : Nat → σ → Parse α
  | 0, _ => throw ⟨0, .exhausted⟩
  | fuel + 1, state => do
    match ← step state with
    | .inl state => repeatFrom step fuel state
    | .inr result => return result

/-- Runs a step until it gives a result. Every step but the last consumes a token. -/
def loop {σ α : Type} (start : σ) (step : σ → Parse (σ ⊕ α)) : Parse α := do
  repeatFrom step (← get).limit start

/-- Items until a closing mark or the end. -/
def itemsUntil {α : Type} (close : Mark) (item : Parse α) : Parse (List α) :=
  loop [] fun items => do
    if (← isAtEnd) || (← isAtMark close) then return .inr items.reverse
    return .inl ((← item) :: items)

def within {α : Type} (change : Context → Context) (parser : Parse α) : Parse α := withReader change parser

def allowingIn {α : Type} (parser : Parse α) : Parse α :=
  within (fun context => { context with allowIn := true }) parser

/-- A node from `lo` to the last token consumed. -/
def node (kind : Kind) (lo : Nat) (children : List Node) : Parse Node := return .mk kind lo (← lastEnd) children

/-- Runs a parser, and gives its error as a value. -/
def attempt {α : Type} (parser : Parse α) : Parse (Except SyntaxError α) :=
  tryCatch (do return .ok (← parser)) (fun e => return .error e)

end Parse

/-- What a piece of an expression is read again as, when it turns out to be a pattern. -/
inductive PatternRole where
  /-- The left side of an assignment. -/
  | target
  /-- A part of the left side of an assignment. -/
  | targetPart
  /-- A parameter. -/
  | binding
  /-- A part of a parameter. -/
  | bindingPart
  deriving DecidableEq, Repr

namespace PatternRole

def part : PatternRole → PatternRole
  | target | targetPart => targetPart
  | binding | bindingPart => bindingPart

end PatternRole

/-- The parsers that lead back into each other. Each part of the grammar is written with the ones
here; tying them together takes one level of this record for each level of nesting. -/
structure Grammar where
  /-- A statement; `declarations` says whether it may be one, `top` whether nothing encloses it. -/
  statement : (declarations top : Bool) → Parse Node
  ifStatement : Parse Node
  /-- An expression without commas. -/
  assignment : Parse Node
  unary : Parse Node
  /-- The operators behind an operand, as far as they bind tighter than a precedence. -/
  operators : Node → Nat → Parse Node
  /-- An operand without operators; a superclass is one. -/
  leftHand : Parse Node
  /-- An operand without calls, as it stands behind `new`. -/
  newExpression : Parse Node
  /-- A pattern or a name that a declaration binds. -/
  bindingPattern : Parse Node
  /-- An expression, read again as a pattern. -/
  pattern : PatternRole → Node → Parse Node

namespace Grammar

/-- The grammar that is out of levels. -/
def exhausted : Grammar where
  statement _ _ := throw ⟨0, .exhausted⟩
  ifStatement := throw ⟨0, .exhausted⟩
  assignment := throw ⟨0, .exhausted⟩
  unary := throw ⟨0, .exhausted⟩
  operators _ _ := throw ⟨0, .exhausted⟩
  leftHand := throw ⟨0, .exhausted⟩
  newExpression := throw ⟨0, .exhausted⟩
  bindingPattern := throw ⟨0, .exhausted⟩
  pattern _ _ := throw ⟨0, .exhausted⟩

end Grammar

end Bundler.Script
