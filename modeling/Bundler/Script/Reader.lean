import Bundler.Script.Comment
import Bundler.Script.Scanner

/-!
Reading a script token by token, with one token of lookahead. The reader keeps the place, the
comments between the tokens, and the problems that did not stop it.
-/

namespace Bundler.Script

/-- A token with the offsets of its ends. -/
structure Lexeme where
  token : Token
  lo : Nat
  hi : Nat
  /-- Whether a line break stands before the token. -/
  newline : Bool
  deriving DecidableEq, Repr

/-- How far a script has been read. -/
structure Reader where
  cursor : Cursor
  /-- The token to be looked at, once it has been asked for. -/
  current : Option Lexeme := none
  /-- The token behind it, once it has been asked for. -/
  next : Option Lexeme := none
  /-- The ends of the token that was consumed last. -/
  previousLo : Nat := 0
  previousHi : Nat := 0
  /-- The end of the token that was read last. -/
  lastEnd : Nat := 0
  /-- Whether a line break stands before the token that is read next. -/
  newline : Bool := true
  /-- Whether a comment to the end of the line belongs to the last token. -/
  lineTrails : Bool := true
  /-- Whether a comment between marks belongs to the last token. -/
  blockTrails : Bool := false
  /-- Comments that wait for the next token, newest first. -/
  pending : List Comment := []
  comments : Comments := {}
  /-- The problems met so far, newest first. -/
  problems : List SyntaxError := []
  labels : List String := []
  /-- The commas before the closing bracket of literals, by the start of the literal. -/
  commas : List (Nat × Nat) := []
  /-- The start of an expression that may turn out to be an arrow function. -/
  arrowStart : Option Nat := none
  /-- A bound of the number of steps of each loop. -/
  limit : Nat
  deriving DecidableEq, Repr

namespace Reader

def start (source : String) : Reader :=
  let chars := source.toList
  { cursor := ⟨chars, 0⟩, limit := chars.length + 16 }

/-! ### Between tokens -/

def skipBlank (r : Reader) : Reader :=
  let isBlank (c : Char) : Bool := Text.isScriptSpace c || Text.isLineTerminator c || c = '\x00'
  let (blank, cursor) := r.cursor.span isBlank
  { r with cursor, newline := r.newline || blank.any Text.isLineTerminator }

/-- The reader behind a comment to the end of the line, whose text starts at `text`. -/
def skipLine (r : Reader) (text : Cursor) : Reader :=
  let (chars, cursor) := text.span (!Text.isLineTerminator ·)
  let comment : Comment := ⟨false, String.ofList chars⟩
  if r.newline || !r.lineTrails then { r with cursor, pending := comment :: r.pending }
  else
    { r with cursor
             comments := { r.comments with trailing := (r.lastEnd, comment) :: r.comments.trailing } }

/-- The text of a comment up to `*/`, and the characters behind that. -/
def blockText : List Char → List Char → Option (List Char × List Char)
  | [], _ => none
  | '*' :: '/' :: rest, text => some (text.reverse, rest)
  | c :: rest, text => blockText rest (c :: text)

/-- The reader behind the comment whose `/*` stands at its place. -/
def skipBlock (r : Reader) : Except SyntaxError Reader :=
  let body := r.cursor.drop 2
  match blockText body.rest [] with
  | none => .error ⟨r.cursor.offset, .openComment⟩
  | some (text, rest) =>
    let comment : Comment := ⟨true, String.ofList text⟩
    let newline := r.newline || text.any Text.isLineTerminator
    let after := skipBlank { r with cursor := ⟨rest, body.offset + text.length + 2⟩, newline }
    let waits := (r.newline || !r.blockTrails) && after.cursor.rest.head? ≠ some ';'
    if waits then .ok { after with pending := comment :: after.pending }
    else .ok { after with
      comments := { after.comments with trailing := (r.lastEnd, comment) :: after.comments.trailing } }

/-- The reader behind blanks and comments. -/
def skipTrivia : Nat → Reader → Except (SyntaxError × Reader) Reader
  | 0, r => .ok r
  | fuel + 1, r =>
    let r := r.skipBlank
    match r.cursor.rest with
    | '/' :: '/' :: _ => skipTrivia fuel (r.skipLine (r.cursor.drop 2))
    | '/' :: '*' :: _ =>
      match r.skipBlock with
      | .ok r => skipTrivia fuel r
      | .error e => .error (e, { r with cursor := r.cursor.drop r.cursor.rest.length })
    | _ => .ok r

/-! ### Tokens -/

/-- Whether a comment between marks belongs to the token before it. -/
def ownsBlocks : Token → Bool
  | .ident _ | .number .. | .string .. | .bigint _ => true
  | .mark m => match m with
    | .semicolon | .openBrace | .closeBrace | .dollarBrace => true
    | _ => false
  | _ => false

/-- Whether a comment to the end of the line belongs to the token before it. -/
def ownsLines : Token → Bool
  | .binary _ => false
  | _ => true

/-- The reader behind a token from `lo` to `hi`. The comments that waited lead the token. -/
def recordTo (r : Reader) (token : Token) (lo hi : Nat) : Reader × Lexeme :=
  let lexeme : Lexeme := ⟨token, lo, hi, r.newline⟩
  let led := r.pending.map fun comment => (lo, comment)
  ({ r with
    pending := []
    comments := { r.comments with leading := led ++ r.comments.leading }
    lastEnd := hi
    newline := false
    lineTrails := ownsLines token
    blockTrails := ownsBlocks token }, lexeme)

/-- The reader behind a token that starts at `lo` and ends at the reader's place. -/
def record (r : Reader) (token : Token) (lo : Nat) : Reader × Lexeme := r.recordTo token lo r.cursor.offset

/-- The reader at the end of the source. The comments that waited trail the last token, and lead the
end if there is none. -/
def finish (r : Reader) : Reader :=
  let led := r.pending.map fun comment => (r.lastEnd, comment)
  if r.lastEnd = 0 then
    { r with pending := [], comments := { r.comments with leading := led ++ r.comments.leading } }
  else { r with pending := [], comments := { r.comments with trailing := led ++ r.comments.trailing } }

/-- The next token from the reader's place on, none at the end. -/
def readFrom (context : Context) (lo : Nat) : Nat → Reader → Reader × Option Lexeme
  | 0, r => (r, none)
  | fuel + 1, r =>
    if r.cursor.rest.isEmpty then (r.finish, none)
    else match Scanner.scan context r.newline r.cursor with
    | .token token after flaws =>
      let (r, lexeme) := record { r with cursor := after, problems := flaws.reverse ++ r.problems } token lo
      (r, some lexeme)
    | .cutString token hi after flaws =>
      let (r, lexeme) :=
        recordTo { r with cursor := after, problems := flaws.reverse ++ r.problems } token lo hi
      (r, some lexeme)
    | .lineComment text flaws =>
      let r := skipLine { r with problems := flaws.reverse ++ r.problems } text
      match skipTrivia (r.cursor.rest.length + 1) r with
      | .ok r => readFrom context lo fuel r
      | .error (e, r) =>
        let (r, lexeme) := r.record (.failed e) lo
        (r, some lexeme)

/-- The next token, none at the end of the source. -/
def read (context : Context) (r : Reader) : Reader × Option Lexeme :=
  match skipTrivia (r.cursor.rest.length + 1) r with
  | .error (e, after) =>
    let (after, lexeme) := after.record (.failed e) r.cursor.offset
    (after, some lexeme)
  | .ok r => readFrom context r.cursor.offset (r.cursor.rest.length + 1) r

/-- The reader with its current token known. -/
def look (context : Context) (r : Reader) : Reader :=
  match r.current with
  | some _ => r
  | none =>
    match r.next with
    | some lexeme => { r with current := some lexeme, next := none }
    | none =>
      let (r, lexeme) := r.read context
      { r with current := lexeme }

/-- The reader with the token behind its current one known. -/
def lookNext (context : Context) (r : Reader) : Reader :=
  match r.next with
  | some _ => r
  | none =>
    let (r, lexeme) := r.read context
    { r with next := lexeme }

/-- The reader behind its current token. -/
def advance (r : Reader) : Reader :=
  match r.current with
  | some lexeme => { r with current := none, previousLo := lexeme.lo, previousHi := lexeme.hi }
  | none => r

end Reader

end Bundler.Script
