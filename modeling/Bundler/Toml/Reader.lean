import Bundler.Text.Hex
import Bundler.Text.Pieces
import Bundler.Toml.Value

/-!
Reading TOML documents, version 1.0. A text is a document or it is not; why it is none is not told.
-/

namespace Bundler.Toml

/-- Reading takes characters from the front of what is left. -/
abbrev Read := StateT (List Char) Option

namespace Read

def peek : Read (Option Char) := return (← get).head?

def next : Read Char := do
  match ← get with
  | c :: rest => do
    set rest
    return c
  | [] => failure

def accept (text : String) : Read Bool := do
  let rest ← get
  if text.toList.isPrefixOf rest then
    set (rest.drop text.length)
    return true
  return false

def expect (text : String) : Read Unit := do if !(← accept text) then failure

def ensure (condition : Bool) : Read Unit := if condition then return () else failure

def takeWhile (keep : Char → Bool) : Read (List Char) := do
  let (taken, rest) := (← get).span keep
  set rest
  return taken

end Read

open Read

/-- Whether a character may stand in comments and strings of one line. -/
def isPlain (c : Char) : Bool := c = '\t' || (c ≥ ' ' && c ≠ '\x7f')

def blanks : Read Unit := do let _ ← takeWhile fun c => c = ' ' || c = '\t'

def newline : Read Bool := do
  if ← accept "\n" then return true
  accept "\r\n"

def comment : Read Unit := do
  if ← accept "#" then
    let _ ← takeWhile isPlain

/-- The rest of a line on which nothing more is said. -/
def lineEnd : Read Unit := do
  blanks
  comment
  if !(← newline) then ensure (← get).isEmpty

/-- Blanks, comments and line breaks, as they may stand in arrays. -/
def gap : Nat → Read Unit
  | 0 => return ()
  | fuel + 1 => do
    blanks
    comment
    if ← newline then gap fuel

def unicode (digits : Nat) : Read Char := do
  let read ← (List.range digits).mapM fun _ => do Text.hexValue? (← next)
  let n := read.foldl (fun n d => 16 * n + d) 0
  ensure n.isValidChar
  return Char.ofNat n

def escape : Read Char := do
  match ← next with
  | 'b' => return '\x08'
  | 't' => return '\t'
  | 'n' => return '\n'
  | 'f' => return '\x0c'
  | 'r' => return '\r'
  | '"' => return '"'
  | '\\' => return '\\'
  | 'u' => unicode 4
  | 'U' => unicode 8
  | _ => failure

/-- A string of one line, behind its opening quote. -/
def lineString (quote : Char) : Nat → Read (List Char)
  | 0 => failure
  | fuel + 1 => do
    let c ← next
    if c = quote then return []
    let c ← if c = '\\' ∧ quote = '"' then escape else do ensure (isPlain c); pure c
    return c :: (← lineString quote fuel)

/-- The line break and the blanks that a backslash at the end of a line leaves out. -/
def continuation : Nat → Read Unit
  | 0 => return ()
  | fuel + 1 => do
    blanks
    if ← newline then continuation fuel

/-- A string of many lines, behind its three opening quotes. Two quotes may stand before the three
that close it. -/
def blockString (quote : Char) : Nat → Read (List Char)
  | 0 => failure
  | fuel + 1 => do
    let close := String.ofList [quote, quote, quote]
    if ← accept close then
      let extra := (← get).takeWhile (· = quote)
      ensure (extra.length ≤ 2)
      set ((← get).drop extra.length)
      return extra
    if ← newline then return '\n' :: (← blockString quote fuel)
    let c ← next
    if c = '\\' ∧ quote = '"' then
      let rest := (← get).dropWhile fun c => c = ' ' || c = '\t'
      if rest.head? = some '\n' ∨ ['\r', '\n'].isPrefixOf rest then
        continuation fuel
        blockString quote fuel
      else
        let c ← escape
        return c :: (← blockString quote fuel)
    else
      ensure (isPlain c)
      return c :: (← blockString quote fuel)

/-- A string with either quote, of one line or many. -/
def string (quote : Char) : Read String := do
  let fuel := (← get).length + 1
  let open_ := String.ofList [quote, quote, quote]
  if ← accept open_ then
    let _ ← newline
    return String.ofList (← blockString quote fuel)
  let _ ← next
  return String.ofList (← lineString quote fuel)

def isKeyChar (c : Char) : Bool := c.isAlphanum || c = '_' || c = '-'

/-- A key without dots. -/
def simpleKey : Read String := do
  match ← peek with
  | some '"' => do
    let _ ← next
    return String.ofList (← lineString '"' ((← get).length + 1))
  | some '\'' => do
    let _ ← next
    return String.ofList (← lineString '\'' ((← get).length + 1))
  | _ => do
    let key ← takeWhile isKeyChar
    ensure (!key.isEmpty)
    return String.ofList key

/-- The keys behind the first one of a dotted key. -/
def moreKeys : Nat → Read (List String)
  | 0 => return []
  | fuel + 1 => do
    blanks
    if ← accept "." then
      blanks
      let key ← simpleKey
      return key :: (← moreKeys fuel)
    return []

/-- A key with or without dots: what stands before its last part, and that part. -/
def key : Read (List String × String) := do
  let first ← simpleKey
  let all := first :: (← moreKeys (← get).length)
  return (all.dropLast, all.getLastD first)

/-- Digits with single underscores between them, as a number and their count. -/
def digitsOf? (base : Nat) (text : List Char) : Option (Nat × Nat) := do
  let groups := Text.pieces '_' text
  if groups.any (·.isEmpty) then none
  let values ← groups.flatten.mapM fun c => (Text.hexValue? c).filter (· < base)
  some (values.foldl (fun n d => base * n + d) 0, values.length)

/-- A whole number in base ten, without zeros in front. -/
def decimalOf? (text : List Char) : Option Nat := do
  if text.length > 1 ∧ text.head? = some '0' then none
  (·.1) <$> digitsOf? 10 text

/-- A sign and what stands behind it. -/
def signed (text : List Char) : Bool × List Char :=
  match text with
  | '-' :: rest => (true, rest)
  | '+' :: rest => (false, rest)
  | _ => (false, text)

def integerOf? (text : List Char) : Option Int :=
  match text with
  | '0' :: 'x' :: rest => (fun d => (d.1 : Int)) <$> digitsOf? 16 rest
  | '0' :: 'o' :: rest => (fun d => (d.1 : Int)) <$> digitsOf? 8 rest
  | '0' :: 'b' :: rest => (fun d => (d.1 : Int)) <$> digitsOf? 2 rest
  | _ =>
    let (negative, digits) := signed text
    (fun (n : Nat) => if negative then -(n : Int) else n) <$> decimalOf? digits

def realOf? (text : List Char) : Option Real := do
  let (negative, digits) := signed text
  if digits = "inf".toList then some (.infinite negative)
  else if digits = "nan".toList then some .notANumber
  else
    let (mantissa, exponent) := digits.span fun c => c ≠ 'e' && c ≠ 'E'
    let (whole, fraction) := mantissa.span (· ≠ '.')
    if exponent.isEmpty && fraction.isEmpty then none
    let wholeValue ← decimalOf? whole
    let (fractionValue, places) ← match fraction with
      | [] => some (0, 0)
      | _ :: digits => digitsOf? 10 digits
    let power ← match exponent with
      | [] => some 0
      | _ :: digits =>
        let (negative, digits) := signed digits
        (fun d => if negative then -(d.1 : Int) else d.1) <$> digitsOf? 10 digits
    some (.finite negative (.ofDecimal (wholeValue * Nat.pow 10 places + fractionValue) (power - places)))

/-- The number that exactly so many digits stand for. -/
def fixedDigits? (count : Nat) (text : List Char) : Option Nat :=
  if text.length = count ∧ text.all Char.isDigit then (·.1) <$> digitsOf? 10 text else none

def daysIn (year month : Nat) : Nat :=
  if month = 2 then
    if year % 4 = 0 ∧ (year % 100 ≠ 0 ∨ year % 400 = 0) then 29 else 28
  else if month = 4 ∨ month = 6 ∨ month = 9 ∨ month = 11 then 30 else 31

def isDate (text : List Char) : Bool :=
  match Text.pieces '-' text with
  | [year, month, day] => match fixedDigits? 4 year, fixedDigits? 2 month, fixedDigits? 2 day with
    | some year, some month, some day => 1 ≤ month && month ≤ 12 && 1 ≤ day && day ≤ daysIn year month
    | _, _, _ => false
  | _ => false

def isClock (text : List Char) (largest : List Nat) : Bool :=
  let parts := Text.pieces ':' text
  parts.length = largest.length &&
    (parts.zip largest).all fun (part, most) => (fixedDigits? 2 part).any (· ≤ most)

def isTime (text : List Char) : Bool :=
  let (clock, fraction) := text.span (· ≠ '.')
  isClock clock [23, 59, 60] && match fraction with
    | [] => true
    | _ :: digits => !digits.isEmpty && digits.all Char.isDigit

/-- Whether a text is a time with or without its distance from the world's clock. -/
def isZonedTime (text : List Char) : Bool :=
  let (time, zone) := text.span fun c => c ≠ 'Z' && c ≠ 'z' && c ≠ '+' && c ≠ '-'
  isTime time && match zone with
    | [] | ['Z'] | ['z'] => true
    | '+' :: offset | '-' :: offset => isClock offset [23, 59]
    | _ => false

def isDatetime (text : List Char) : Bool :=
  let (date, time) := text.span fun c => c ≠ 'T' && c ≠ 't' && c ≠ ' '
  match time with
  | [] => isDate text || isTime text
  | _ :: time => isDate date && isZonedTime time

def isWordChar (c : Char) : Bool := isKeyChar c || c = '+' || c = '.' || c = ':'

/-- A value without quotes or brackets. A blank can separate a date from a time. -/
def word : Read Value := do
  let first ← takeWhile isWordChar
  let text ← match isDate first, ← get with
    | true, ' ' :: c :: rest =>
      if c.isDigit then do
        set (c :: rest)
        pure (first ++ ' ' :: (← takeWhile isWordChar))
      else pure first
    | _, _ => pure first
  if text = "true".toList then return .boolean true
  if text = "false".toList then return .boolean false
  match integerOf? text, realOf? text with
  | some n, _ => return .integer n
  | none, some r => return .real r
  | none, none =>
    ensure (isDatetime text)
    return .datetime

/-- How deep arrays and inline tables can be nested. -/
def maxDepth : Nat := 80

mutual

/-- A value inside so many brackets. -/
def value : Nat → Nat → Read Value
  | 0, _ => failure
  | fuel + 1, depth => do
    match ← peek with
    | some '"' => return .string (← string '"')
    | some '\'' => return .string (← string '\'')
    | some '[' => do
      ensure (depth < maxDepth)
      let _ ← next
      return .array (← elements fuel (depth + 1))
    | some '\x7b' => do
      ensure (depth < maxDepth)
      let _ ← next
      blanks
      if ← accept "\x7d" then return .table []
      let entries ← members fuel (depth + 1) []
      return .table (Node.entriesToValues entries)
    | _ => word

/-- The values of an array that are left, and its closing bracket. -/
def elements : Nat → Nat → Read (List Value)
  | 0, _ => failure
  | fuel + 1, depth => do
    gap (← get).length
    if ← accept "]" then return []
    let first ← value fuel depth
    gap (← get).length
    if ← accept "," then return first :: (← elements fuel depth)
    expect "]"
    return [first]

/-- The members of an inline table that are left, and its closing bracket. -/
def members : Nat → Nat → Entries → Read Entries
  | 0, _, _ => failure
  | fuel + 1, depth, entries => do
    blanks
    let (path, last) ← key
    blanks
    expect "="
    blanks
    let read ← value fuel depth
    let entries ← entries.assign .header false path last read
    blanks
    if ← accept "," then members fuel depth entries
    else
      expect "\x7d"
      return entries

end

/-- The tables of a document so far, and the header that the next keys belong to. -/
structure Document where
  entries : Entries
  header : List String

/-- The lines of a document. -/
def lines : Nat → Document → Read Document
  | 0, document => return document
  | fuel + 1, document => do
    blanks
    if (← get).isEmpty then return document
    if ← newline then lines fuel document
    else match ← peek with
      | some '#' => do
        lineEnd
        lines fuel document
      | some '[' => do
        let many ← accept "[["
        if !many then expect "["
        blanks
        let (path, last) ← key
        blanks
        expect (if many then "]]" else "]")
        lineEnd
        let opened := if many then Entries.appendTable last else Entries.openTable last
        let entries ← document.entries.enter opened path
        lines fuel ⟨entries, path ++ [last]⟩
      | _ => do
        let (path, last) ← key
        blanks
        expect "="
        blanks
        let read ← value (2 * (← get).length + 2) 0
        lineEnd
        let assigned (here : Entries) : Option Entries := here.assign .header false path last read
        let entries ← document.entries.enter assigned document.header
        lines fuel { document with entries }

/-- The table that a text stands for, if it is a document. -/
def parse? (text : String) : Option (List (String × Value)) := do
  let chars := match text.toList with
    | '\uFEFF' :: rest => rest
    | chars => chars
  let (document, rest) ← (lines (chars.length + 1) ⟨[], []⟩).run chars
  if rest.isEmpty then some (Node.entriesToValues document.entries) else none

end Bundler.Toml
