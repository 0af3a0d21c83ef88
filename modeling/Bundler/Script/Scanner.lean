import Bundler.Script.Context
import Bundler.Script.Token
import Bundler.Text.Blank
import Bundler.Text.Identifier

/-!
The longest token at a place of a script. Everything here is a function of the characters from the
place on; `Script.Reader` keeps the place and the comments between tokens.
-/

namespace Bundler.Script

/-- A place in the source: its offset and the characters from there on. -/
structure Cursor where
  rest : List Char
  offset : Nat
  deriving DecidableEq, Repr

namespace Cursor

def drop (c : Cursor) (n : Nat) : Cursor := ⟨c.rest.drop n, c.offset + n⟩

/-- The characters with `p` from the place on, and the place behind them. -/
def span (c : Cursor) (p : Char → Bool) : List Char × Cursor :=
  let taken := c.rest.takeWhile p
  (taken, ⟨c.rest.dropWhile p, c.offset + taken.length⟩)

def take (c : Cursor) (n : Nat) : List Char := c.rest.take n

def upTo (c later : Cursor) : List Char := c.rest.take (later.offset - c.offset)

def startsWith (c : Cursor) (text : String) : Bool := text.toList.isPrefixOf c.rest

end Cursor

namespace Scanner

/-- What stands at a place: a token and the place behind it, or a comment to the end of the line
whose text starts at a place. The flaws do not stop the reading. -/
inductive Found where
  | token (token : Token) (after : Cursor) (flaws : List SyntaxError)
  | lineComment (text : Cursor) (flaws : List SyntaxError)
  /-- A string that a line break cuts off. It ends before the break, and reading goes on behind it. -/
  | cutString (token : Token) (hi : Nat) (after : Cursor) (flaws : List SyntaxError)

def Found.plain (token : Token) (after : Cursor) : Found := .token token after []

def Found.failure (error : SyntaxError) (after : Cursor) : Found := .token (.failed error) after []

/-! ### Digits -/

/-- The value of a digit below `radix`. -/
def digitValue? (radix : Nat) (c : Char) : Option Nat :=
  (Text.hexValue? c).bind fun value => if value < radix then some value else none

structure Digits where
  values : List Nat
  after : Cursor
  /-- Whether a separator stands where none may. -/
  misplaced : Bool

/-- Whether a separator may not stand beside a character. -/
def repelsSeparator (radix : Nat) (c : Char) : Bool :=
  if radix = 16 then c = '.' || c = 'X' || c = '_' || c = 'x'
  else c = '.' || c = 'B' || c = 'E' || c = 'O' || c = '_' || c = 'b' || c = 'e' || c = 'o'

/-- At most `count` digits; a `_` between them is left out. `before` is the digit before. -/
def digitsFrom (radix : Nat) : (count : Nat) → (before : Option Char) → List Char → Nat → Bool →
    Digits
  | _, _, [], offset, misplaced => ⟨[], ⟨[], offset⟩, misplaced⟩
  | count, before, c :: rest, offset, misplaced =>
    if c = '_' then
      let good := match rest with
        | next :: _ => (digitValue? radix next).isSome && !repelsSeparator radix next
            && !(before.any (repelsSeparator radix))
        | [] => false
      digitsFrom radix count before rest (offset + 1) (misplaced || !good)
    else match digitValue? radix c, count with
      | some value, count + 1 =>
        if count = 0 then ⟨[value], ⟨rest, offset + 1⟩, misplaced⟩
        else
          let more := digitsFrom radix count (some c) rest (offset + 1) misplaced
          { more with values := value :: more.values }
      | _, _ => ⟨[], ⟨c :: rest, offset⟩, misplaced⟩

def digits (radix : Nat) (c : Cursor) : Digits :=
  digitsFrom radix (c.rest.length + 1) none c.rest c.offset false

/-- Exactly `count` digits at a place, if they are there. -/
def exactDigits (radix count : Nat) (c : Cursor) : Digits :=
  digitsFrom radix count none c.rest c.offset false

def valueOf (radix : Nat) (values : List Nat) : Nat :=
  values.foldl (fun total value => total * radix + value) 0

/-! ### Escapes -/

structure Escape where
  value : Except SyntaxError (List Char)
  after : Cursor
  octal : Bool

/-- The escape whose `u` stands at a place. Half of a surrogate pair stands for its own spelling. -/
def unicodeEscape (c : Cursor) : Escape :=
  let c := c.drop 1
  let curly := c.rest.head? = some '{'
  let body := if curly then c.drop 1 else c
  let found := if curly then digits 16 body else exactDigits 16 4 body
  let enough := if curly then !found.values.isEmpty else found.values.length = 4
  let value := valueOf 16 found.values
  if !enough || value > 0xFFFFFFFF then
    ⟨.error ⟨found.after.offset, .badEscape (if curly then "1-6 hex characters" else "4 hex characters")⟩,
      found.after, false⟩
  else if value > 0x10FFFF then
    ⟨.error ⟨found.after.offset, .badEscape "1-6 hex characters in the range 0 to 10FFFF."⟩, found.after,
      false⟩
  else
    let spelled := body.rest.take (if curly then 6 else 4)
    let spelled := if curly then spelled.takeWhile (· ≠ '}') else spelled
    let half := 0xD800 ≤ value && value ≤ 0xDFFF
    let text := if half then
        ['\\', 'u'] ++ (if curly then '{' :: (spelled ++ ['}']) else spelled)
      else [Char.ofNat value]
    let after := if half then body.drop spelled.length else found.after
    if curly then
      if after.rest.head? = some '}' then ⟨.ok text, after.drop 1, false⟩
      else ⟨.error ⟨body.offset, .badUnicodeEscape⟩, after, false⟩
    else ⟨.ok text, after, false⟩

/-- An octal escape of at most three digits below 256, whose digits stand at a place. -/
def octalEscape (c : Cursor) : Escape :=
  let digit (c : Cursor) : Option Nat := c.rest.head?.bind (digitValue? 8)
  match digit c with
  | none => ⟨.ok [], c, true⟩
  | some first =>
    match digit (c.drop 1) with
    | none => ⟨.ok [Char.ofNat first], c.drop 1, true⟩
    | some second =>
      match digit (c.drop 2) with
      | some third =>
        let value := (first * 8 + second) * 8 + third
        if value < 256 then ⟨.ok [Char.ofNat value], c.drop 3, true⟩
        else ⟨.ok [Char.ofNat (first * 8 + second)], c.drop 2, true⟩
      | none => ⟨.ok [Char.ofNat (first * 8 + second)], c.drop 2, true⟩

/-- The escape whose backslash stands at `start`. -/
def escape (start : Cursor) : Escape :=
  let c := start.drop 1
  let anchored (problem : Problem) : Except SyntaxError (List Char) := .error ⟨start.offset, problem⟩
  match c.rest with
  | [] => ⟨anchored .badStringEscape, c, false⟩
  | 'n' :: _ => ⟨.ok ['\n'], c.drop 1, false⟩
  | 'r' :: _ => ⟨.ok ['\r'], c.drop 1, false⟩
  | 't' :: _ => ⟨.ok ['\t'], c.drop 1, false⟩
  | 'b' :: _ => ⟨.ok ['\x08'], c.drop 1, false⟩
  | 'v' :: _ => ⟨.ok ['\x0b'], c.drop 1, false⟩
  | 'f' :: _ => ⟨.ok ['\x0c'], c.drop 1, false⟩
  | '\r' :: '\n' :: _ => ⟨.ok [], c.drop 2, false⟩
  | 'x' :: _ =>
    let found := exactDigits 16 2 (c.drop 1)
    if found.values.length = 2 then ⟨.ok [Char.ofNat (valueOf 16 found.values)], found.after, false⟩
    else ⟨anchored (.badEscape "2 hex characters"), found.after, false⟩
  | 'u' :: _ =>
    let found := unicodeEscape c
    match found.value with
    | .ok _ => found
    | .error e => { found with value := anchored e.problem }
  | other :: rest =>
    if Text.isLineTerminator other then ⟨.ok [], c.drop 1, false⟩
    else if (digitValue? 8 other).isSome then
      if other = '0' && !(rest.head?.any (digitValue? 8 · |>.isSome)) then ⟨.ok ['\x00'], c.drop 1, false⟩
      else octalEscape c
    else ⟨.ok [other], c.drop 1, false⟩

/-! ### Strings and templates -/

/-- How a string ends. -/
inductive StringEnd where
  /-- With its quote or with the source. -/
  | complete (value : List Char) (after : Cursor)
  /-- With a line break. -/
  | cut (value : List Char) (after : Cursor)
  | failed (error : SyntaxError) (after : Cursor)

/-- The characters of a string up to its closing quote, and the flaws met on the way. -/
def stringBody (strict : Bool) (quote : Char) (start : Nat) : Nat → Cursor → List Char →
    List SyntaxError → StringEnd × List SyntaxError
  | 0, c, value, flaws => (.complete value.reverse c, flaws)
  | fuel + 1, c, value, flaws =>
    match c.rest with
    | [] => (.complete value.reverse c, flaws ++ [⟨start, .openString⟩])
    | ch :: _ =>
      if ch = quote then (.complete value.reverse (c.drop 1), flaws)
      else if ch = '\n' || ch = '\r' then
        (.cut value.reverse (c.drop 1), flaws ++ [⟨start, .openString⟩])
      else if ch = '\\' then
        let found := escape c
        let flaws := if found.octal && strict then flaws ++ [⟨c.offset, .strictOctal⟩] else flaws
        match found.value with
        | .ok chars => stringBody strict quote start fuel found.after (chars.reverse ++ value) flaws
        | .error e => (.failed e found.after, flaws)
      else stringBody strict quote start fuel (c.drop 1) (ch :: value) flaws

/-- The string that starts at a place. -/
def string (strict : Bool) (c : Cursor) : Found :=
  let quote := c.rest.head?.getD '"'
  let token (value : List Char) (after : Cursor) : Token :=
    .string (String.ofList value) (String.ofList (c.upTo after))
  match stringBody strict quote c.offset (c.rest.length + 1) (c.drop 1) [] [] with
  | (.complete value after, flaws) => .token (token value after) after flaws
  | (.cut value after, flaws) => .cutString (token value after) (after.offset - 1) after flaws
  | (.failed e after, flaws) => .token (.failed e) after flaws

/-- A spelling with every line break as a line feed. -/
def plainNewlines : List Char → List Char
  | '\r' :: '\n' :: rest => '\n' :: plainNewlines rest
  | '\r' :: rest => '\n' :: plainNewlines rest
  | c :: rest => c :: plainNewlines rest
  | [] => []

/-- The end of the piece of a template at a place, and the first flaw of its escapes. -/
def templateBody : Nat → Cursor → Option SyntaxError → Option (Cursor × Option SyntaxError)
  | 0, _, _ => none
  | fuel + 1, c, flaw =>
    match c.rest with
    | [] => none
    | '\x60' :: _ => some (c, flaw)
    | '$' :: '{' :: _ => some (c, flaw)
    | '\\' :: _ =>
      let found := escape c
      let flaw := match found.value with
        | .error e => some e
        | .ok _ => if found.octal then some ⟨c.offset, .strictOctal⟩ else flaw
      templateBody fuel found.after flaw
    | _ => templateBody fuel (c.drop 1) flaw

/-- The piece of a template at a place; the template starts at `start`. -/
def template (start : Nat) (c : Cursor) : Token × Cursor :=
  match templateBody (c.rest.length + 1) c none with
  | some (after, flaw) => (.template (String.ofList (plainNewlines (c.upTo after))) flaw, after)
  | none => (.failed ⟨start, .openTemplate⟩, c.drop c.rest.length)

/-! ### Patterns -/

/-- The end of the pattern whose text starts at a place. -/
def regexBody : List Char → (inClass : Bool) → Nat → Option Nat
  | [], _, _ => none
  | c :: rest, inClass, n =>
    if Text.isLineTerminator c then none
    else if c = '\\' then
      match rest with
      | [] => none
      | next :: rest => if Text.isLineTerminator next then none else regexBody rest inClass (n + 2)
    else if c = '/' && !inClass then some n
    else if c = '[' then regexBody rest true (n + 1)
    else if c = ']' then regexBody rest false (n + 1)
    else regexBody rest inClass (n + 1)

/-- The pattern and the flags of the expression whose first slash stands at a place. -/
def regex (c : Cursor) : Option (String × String × Cursor) :=
  let body := c.drop 1
  match regexBody body.rest false 0 with
  | none => none
  | some n =>
    let (flags, after) := (body.drop (n + 1)).span Text.isIdentifierPart
    some (String.ofList (body.take n), String.ofList flags, after)

/-! ### Words -/

/-- The characters of a word from a place on. -/
def wordBody : Nat → Cursor → (first : Bool) → List Char → (escaped : Bool) → List SyntaxError →
    Except (SyntaxError × Cursor) (List Char × Bool × Cursor) × List SyntaxError
  | 0, c, _, word, escaped, flaws => (.ok (word.reverse, escaped, c), flaws)
  | fuel + 1, c, first, word, escaped, flaws =>
    match c.rest with
    | [] => (.ok (word.reverse, escaped, c), flaws)
    | ch :: rest =>
      if ch = '\\' then
        match rest with
        | 'u' :: _ =>
          let found := unicodeEscape (c.drop 1)
          match found.value with
          | .error e => (.error (e, found.after), flaws)
          | .ok chars =>
            let good := match chars with
              | [one] => if first then Text.isIdentifierStart one else Text.isIdentifierPart one
              | _ => false
            let flaws := if good then flaws else flaws ++ [⟨c.offset, .badIdentifierCharacter⟩]
            wordBody fuel found.after false (chars.reverse ++ word) true flaws
        | _ => (.error (⟨c.offset, .unicodeEscapeExpected⟩, c.drop 1), flaws)
      else if Text.isIdentifierPart ch then wordBody fuel (c.drop 1) false (ch :: word) escaped flaws
      else (.ok (word.reverse, escaped, c), flaws)

/-- The identifier or keyword that starts at a place. A word that starts with an escape is never a
keyword, and no reserved word may hold an escape elsewhere. -/
def word (context : Context) (c : Cursor) : Found :=
  match wordBody (c.rest.length + 1) c true [] false [] with
  | (.error (e, after), flaws) => .token (.failed e) after flaws
  | (.ok (chars, escaped, after), flaws) =>
    let name := String.ofList chars
    if c.rest.head? = some '\\' then .token (.ident name) after flaws
    else if escaped && context.reserves name then
      .token (.failed ⟨c.offset, .escapedReservedWord name⟩) after flaws
    else match Keyword.ofText? name with
      | some keyword => .token (.keyword keyword) after flaws
      | none => .token (.ident name) after flaws

/-! ### Numbers -/

/-- A number that has been read, unless a word follows it at once. -/
def finishNumber (start after : Cursor) (token : String → Token) (flaws : List SyntaxError) : Found :=
  if after.rest.head?.any Text.isIdentifierStart then
    .token (.failed ⟨after.offset, .identifierAfterNumber⟩) after flaws
  else .token (token (String.ofList (start.upTo after))) after flaws

def separatorFlaw (found : Digits) (offset : Nat) : List SyntaxError :=
  if found.misplaced then [⟨offset, .numericSeparator⟩] else []

/-- A number with a radix prefix of two characters. -/
def radixNumber (radix : Nat) (c : Cursor) : Found :=
  let body := c.drop 2
  let found := digits radix body
  let flaws := separatorFlaw found body.offset
  if found.values.isEmpty then .token (.failed ⟨body.offset, .digitExpected radix⟩) found.after flaws
  else if found.after.rest.head? = some 'n' then
    let after := found.after.drop 1
    .token (.bigint (String.ofList (c.upTo after))) after flaws
  else
    finishNumber c found.after
      (fun raw => .number raw (.ofDecimal (valueOf radix found.values) 0)) flaws

/-- The fraction and the exponent of a decimal number whose whole digits have been read. -/
def decimalTail (start c : Cursor) (whole : List Nat) (flaws : List SyntaxError) : Found :=
  let (fraction, c, flaws) :=
    if c.rest.head? = some '.' then
      let found := digits 10 (c.drop 1)
      (found.values, found.after, flaws ++ separatorFlaw found (c.offset + 1))
    else ([], c, flaws)
  let number (power : Int) (raw : String) : Token :=
    .number raw (.ofDecimal (valueOf 10 (whole ++ fraction)) (power - fraction.length))
  match c.rest with
  | e :: rest =>
    if e = 'e' || e = 'E' then
      match rest with
      | [] => .token (.failed ⟨c.offset + 1, .exponentExpected⟩) (c.drop 1) flaws
      | sign :: _ =>
        let body := if sign = '+' || sign = '-' then c.drop 2 else c.drop 1
        let found := digits 10 body
        let flaws := flaws ++ separatorFlaw found body.offset
        if found.values.isEmpty then
          .token (.failed ⟨body.offset, .digitExpected 10⟩) found.after flaws
        else
          let size : Int := valueOf 10 found.values
          finishNumber start found.after (number (if sign = '-' then -size else size)) flaws
    else finishNumber start c (number 0) flaws
  | [] => finishNumber start c (number 0) flaws

/-- The number that starts at a place. Digits after a zero are octal if they can be. -/
def number (strict : Bool) (c : Cursor) : Found :=
  match c.rest with
  | '0' :: 'x' :: _ | '0' :: 'X' :: _ => radixNumber 16 c
  | '0' :: 'o' :: _ | '0' :: 'O' :: _ => radixNumber 8 c
  | '0' :: 'b' :: _ | '0' :: 'B' :: _ => radixNumber 2 c
  | '.' :: _ => decimalTail c c [] []
  | _ =>
    let found := digits 10 c
    let flaws := separatorFlaw found c.offset
    let size := found.after.offset - c.offset
    if found.after.rest.head? = some 'n' then
      let after := found.after.drop 1
      .token (.bigint (String.ofList (c.upTo after))) after flaws
    else if c.rest.head? = some '0' && size > 1 then
      let octal := found.values.all (· < 8)
      if octal then
        let flaws := if strict then flaws ++ [⟨c.offset, .strictOctal⟩] else flaws
        finishNumber c found.after
          (fun raw => .number raw (.ofDecimal (valueOf 8 found.values) 0)) flaws
      else
        let flaws := if strict then flaws ++ [⟨c.offset, .strictDecimal⟩] else flaws
        decimalTail c found.after found.values flaws
    else decimalTail c found.after found.values flaws

/-! ### Everything else -/

/-- A run of seven equal marks at the start of a line, as version control leaves behind. -/
def conflict (newline : Bool) (c : Cursor) : Bool :=
  newline && (c.startsWith "<<<<<<< " || c.startsWith ">>>>>>> " || c.startsWith "||||||| ")

/-- What stands at a place that is not the end. `newline` says whether a line break came before. -/
def scan (context : Context) (newline : Bool) (c : Cursor) : Found :=
  let mark (m : Mark) (n : Nat) : Found := .plain (.mark m) (c.drop n)
  let binary (op : BinaryOp) (n : Nat) : Found := .plain (.binary op) (c.drop n)
  let assign (op : BinaryOp) (n : Nat) : Found := .plain (.assign (.compound op)) (c.drop n)
  if conflict newline c then
    .token (.failed ⟨c.offset, .mergeConflict⟩) (c.drop 7) [⟨c.offset, .mergeConflict⟩]
  else if newline && c.startsWith "=======" then .lineComment (c.drop 7) [⟨c.offset, .mergeConflict⟩]
  else match c.rest with
  | '(' :: _ => mark .openParen 1
  | ')' :: _ => mark .closeParen 1
  | '[' :: _ => mark .openBracket 1
  | ']' :: _ => mark .closeBracket 1
  | '{' :: _ => mark .openBrace 1
  | '}' :: _ => mark .closeBrace 1
  | ';' :: _ => mark .semicolon 1
  | ',' :: _ => mark .comma 1
  | ':' :: _ => mark .colon 1
  | '~' :: _ => mark .tilde 1
  | '@' :: _ => mark .atSign 1
  | '#' :: _ => mark .hash 1
  | '\x60' :: _ => mark .backquote 1
  | '"' :: _ => string context.strict c
  | '\'' :: _ => string context.strict c
  | '.' :: '.' :: '.' :: _ => mark .ellipsis 3
  | '.' :: next :: _ => if next.isDigit then number context.strict c else mark .dot 1
  | '.' :: _ => mark .dot 1
  | '?' :: '?' :: '=' :: _ => assign .nullish 3
  | '?' :: '?' :: _ => binary .nullish 2
  | '?' :: _ => mark .question 1
  | '=' :: '=' :: '=' :: _ => binary .same 3
  | '=' :: '=' :: _ => binary .equal 2
  | '=' :: '>' :: _ => mark .arrow 2
  | '=' :: _ => .plain (.assign .plain) (c.drop 1)
  | '!' :: '=' :: '=' :: _ => binary .notSame 3
  | '!' :: '=' :: _ => binary .notEqual 2
  | '!' :: _ => mark .bang 1
  | '+' :: '+' :: _ => mark .increment 2
  | '+' :: '=' :: _ => assign .plus 2
  | '+' :: _ => binary .plus 1
  | '-' :: '-' :: '>' :: _ => if newline then .lineComment (c.drop 3) [] else mark .decrement 2
  | '-' :: '-' :: _ => mark .decrement 2
  | '-' :: '=' :: _ => assign .minus 2
  | '-' :: _ => binary .minus 1
  | '*' :: '*' :: '=' :: _ => assign .power 3
  | '*' :: '*' :: _ => binary .power 2
  | '*' :: '=' :: _ => assign .times 2
  | '*' :: _ => binary .times 1
  | '/' :: '=' :: _ => assign .divide 2
  | '/' :: _ => binary .divide 1
  | '%' :: '=' :: _ => assign .remainder 2
  | '%' :: _ => binary .remainder 1
  | '<' :: '!' :: '-' :: '-' :: _ => .lineComment (c.drop 4) []
  | '<' :: '<' :: '=' :: _ => assign .shiftLeft 3
  | '<' :: '<' :: _ => binary .shiftLeft 2
  | '<' :: '=' :: _ => binary .lessEqual 2
  | '<' :: _ => binary .less 1
  | '>' :: '>' :: '>' :: '=' :: _ => assign .shiftRightZero 4
  | '>' :: '>' :: '>' :: _ => binary .shiftRightZero 3
  | '>' :: '>' :: '=' :: _ => assign .shiftRight 3
  | '>' :: '>' :: _ => binary .shiftRight 2
  | '>' :: '=' :: _ => binary .greaterEqual 2
  | '>' :: _ => binary .greater 1
  | '&' :: '&' :: '=' :: _ => assign .and 3
  | '&' :: '&' :: _ => binary .and 2
  | '&' :: '=' :: _ => assign .bitAnd 2
  | '&' :: _ => binary .bitAnd 1
  | '|' :: '|' :: '=' :: _ => assign .or 3
  | '|' :: '|' :: _ => binary .or 2
  | '|' :: '=' :: _ => assign .bitOr 2
  | '|' :: _ => binary .bitOr 1
  | '^' :: '=' :: _ => assign .bitXor 2
  | '^' :: _ => binary .bitXor 1
  | ch :: _ =>
    if ch.isDigit then number context.strict c
    else if ch = '\\' || Text.isIdentifierStart ch then word context c
    else .failure ⟨c.offset, .unexpectedCharacter ch⟩ (c.drop 1)
  | [] => .failure ⟨c.offset, .unexpectedEnd⟩ c

end Scanner

end Bundler.Script
