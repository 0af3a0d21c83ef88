import Bundler.Pattern.Basic
import Bundler.Text.Hex

/-!
Reading patterns. `parse?` gives the pattern that a text stands for, or nothing if the text is none.
-/

namespace Bundler.Pattern

/-- What the letters between `(?` and `)` switch. -/
structure Flags where
  caseless : Bool := false
  lines : Bool := false
  dotAll : Bool := false
  spaced : Bool := false
  crlf : Bool := false
  unicode : Bool := true
  deriving DecidableEq, Repr

/-- The state of reading: what is left, the flags here, and the names of the groups so far. -/
structure Reading where
  rest : List Char
  flags : Flags
  groups : List (List Char)

abbrev Parse := StateT Reading Option

namespace Parse

def peek : Parse (Option Char) := return (← get).rest.head?
def flags : Parse Flags := return (← get).flags
def drop (n : Nat) : Parse Unit := modify fun s => { s with rest := s.rest.drop n }

/-- What is left behind a comment, which ends with its line. -/
def skipSpace : List Char → Bool → List Char
  | [], _ => []
  | c :: rest, inComment =>
    if inComment then skipSpace rest (c ≠ '\n')
    else if c = '#' then skipSpace rest true
    else if Text.isBlank c then skipSpace rest false
    else c :: rest

/-- Leaves out blanks and comments where the flags say that they mean nothing. -/
def space : Parse Unit := modify fun s =>
  if s.flags.spaced then { s with rest := skipSpace s.rest false } else s

/-- The next character, which there has to be. -/
def next : Parse Char := do
  let c ← (← get).rest.head?
  drop 1
  return c

def nextSpaced : Parse Char := do
  let c ← next
  space
  return c

/-- Takes a text if it comes next. -/
def accept (text : String) : Parse Bool := do
  if text.toList.isPrefixOf (← get).rest then
    drop text.length
    return true
  return false

def acceptSpaced (c : Char) : Parse Bool := do
  if (← peek) = some c then
    drop 1
    space
    return true
  return false

/-- The characters that come next and satisfy a condition, without the space between them. -/
def takeWhile (keep : Char → Bool) : Parse (List Char) := do
  go (← get).rest.length
where
  go : Nat → Parse (List Char)
    | 0 => return []
    | fuel + 1 => do
      match (← peek).filter keep with
      | some c =>
        drop 1
        space
        return c :: (← go fuel)
      | none => return []

def ensure (condition : Bool) : Parse Unit := if condition then return () else failure

end Parse

open Parse

/-- A set with the other case of its letters, where the flags ask for that. -/
def Flags.fold (flags : Flags) (set : CharSet) : CharSet :=
  if flags.caseless then
    if flags.unicode then .folded set else .intersection (.range '\x00' '\x7f') (.folded set)
  else set

/-- A set or what it leaves. Without Unicode that would not be made of characters. -/
def Flags.complement (flags : Flags) (negated : Bool) (set : CharSet) : Parse CharSet := do
  ensure (flags.unicode || !negated)
  return if negated then .complement set else set

/-- What an escape or a plain character of a pattern stands for. -/
inductive Element where
  | char (c : Char)
  | set (set : CharSet)
  | assertion (a : Assertion)

def isMeta (c : Char) : Bool := "\\.+*?()|[]\x7b\x7d^$#&-~".contains c

def charOfHex (digits : List Char) : Parse Char := do
  ensure (!digits.isEmpty && digits.length ≤ 16)
  let n := digits.foldl (fun n c => 16 * n + (Text.hexValue? c).getD 0) 0
  ensure (n.isValidChar)
  return Char.ofNat n

def isHexDigit (c : Char) : Bool := (Text.hexValue? c).isSome

/-- The character behind `\x`, `\u` or `\U`, with so many digits unless braces hold them. Two digits
are one byte, which without Unicode is a character only below 128. -/
def hexEscape (digits : Nat) : Parse Char := do
  space
  if ← acceptSpaced '\x7b' then
    let read ← takeWhile isHexDigit
    ensure ((← nextSpaced) = '\x7d')
    charOfHex read
  else
    let read ← (List.range digits).mapM fun _ => do
      ensure ((← peek).any isHexDigit)
      nextSpaced
    let c ← charOfHex read
    ensure ((← flags).unicode || digits ≠ 2 || c.val < 128)
    return c

/-- The first split of a list at a separator. -/
def splitAt? (separator : List Char) : List Char → Option (List Char × List Char)
  | [] => none
  | c :: rest =>
    if separator.isPrefixOf (c :: rest) then some ([], (c :: rest).drop separator.length)
    else (splitAt? separator rest).map fun (a, b) => (c :: a, b)

/-- The set behind `\p` or `\P`. -/
def propertySet (negated : Bool) : Parse CharSet := do
  space
  let flags ← flags
  ensure flags.unicode
  let (negated, set) ← if ← acceptSpaced '\x7b' then
      let name ← takeWhile (· ≠ '\x7d')
      let _ ← next
      match splitAt? "!=".toList name, splitAt? [':'] name, splitAt? ['='] name with
      | some (kind, value), _, _ => pure (!negated, CharSet.valued? kind value)
      | none, some (kind, value), _ => pure (negated, CharSet.valued? kind value)
      | none, none, some (kind, value) => pure (negated, CharSet.valued? kind value)
      | none, none, none => pure (negated, CharSet.named? name)
    else
      let c ← nextSpaced
      ensure (c ≠ '\\')
      pure (negated, CharSet.named? [c])
  flags.complement negated (flags.fold (← set))

/-- The kind of word boundary that braces behind `\b` name, or the plain one. -/
def boundary (unicode : Bool) : Parse Assertion := do
  let isName (c : Char) : Bool := c.isAlpha || c = '-'
  let before ← get
  if !(← acceptSpaced '\x7b') then return .wordBoundary unicode
  let c ← peek
  ensure c.isSome
  if !c.any isName then
    set before
    return .wordBoundary unicode
  let name ← takeWhile isName
  ensure ((← next) = '\x7d')
  match String.ofList name with
  | "start" => return .wordStart unicode
  | "end" => return .wordEnd unicode
  | "start-half" => return .wordStartHalf unicode
  | "end-half" => return .wordEndHalf unicode
  | _ => failure

/-- What an escape stands for, behind its backslash. -/
def escape : Parse Element := do
  let flags ← flags
  let unicode := flags.unicode
  let class_ (negated : Bool) (set ascii : CharSet) : Parse Element :=
    return .set (← flags.complement negated (if unicode then set else ascii))
  let c ← next
  match c with
  | 'x' => return .char (← hexEscape 2)
  | 'u' => return .char (← hexEscape 4)
  | 'U' => return .char (← hexEscape 8)
  | 'p' => return .set (← propertySet false)
  | 'P' => return .set (← propertySet true)
  | 'd' => class_ false .digit .asciiDigit
  | 'D' => class_ true .digit .asciiDigit
  | 's' => class_ false .blank .asciiBlank
  | 'S' => class_ true .blank .asciiBlank
  | 'w' => class_ false .word .asciiWord
  | 'W' => class_ true .word .asciiWord
  | 'a' => return .char '\x07'
  | 'f' => return .char '\x0c'
  | 't' => return .char '\t'
  | 'n' => return .char '\n'
  | 'r' => return .char '\r'
  | 'v' => return .char '\x0b'
  | 'A' => return .assertion .textStart
  | 'z' => return .assertion .textEnd
  | 'b' => return .assertion (← boundary unicode)
  | 'B' => return .assertion (.notWordBoundary unicode)
  | '<' => return .assertion (.wordStart unicode)
  | '>' => return .assertion (.wordEnd unicode)
  | _ =>
    ensure (c.val < 128 && !c.isAlphanum)
    return .char c

/-- The set of one character of a class. Without Unicode it is below 128. -/
def literalSet (c : Char) : Parse CharSet := do
  let flags ← flags
  ensure (flags.unicode || c.val < 128)
  return .singleton c

/-- A member of a class, and the character if it is just one. -/
def classMember : Parse (CharSet × Option Char) := do
  match ← next with
  | '\\' => match ← escape with
    | .char c => return (← literalSet c, some c)
    | .set s => return (s, none)
    | .assertion _ => failure
  | c => return (← literalSet c, some c)

/-- A member of a class or a range of them. -/
def classRange : Parse CharSet := do
  let (first, low) ← classMember
  space
  let s ← get
  match s.rest with
  | '-' :: rest =>
    let behind := if s.flags.spaced then skipSpace rest false else rest
    if behind.head? = some ']' || behind.head? = some '-' then return first
    let _ ← nextSpaced
    let (_, high) ← classMember
    let (low, high) := (← low, ← high)
    ensure (low ≤ high)
    return .range low high
  | _ => return first

/-- A named class such as `[:alpha:]`, if one comes next. -/
def namedClass? : Parse (Option CharSet) := do
  let before ← get
  match before.rest with
  | '[' :: ':' :: rest =>
    let (negated, rest) := match rest with
      | '^' :: rest => (true, rest)
      | _ => (false, rest)
    match rest.span (· ≠ ':'), before.flags with
    | (name, ':' :: ']' :: rest), flags => match CharSet.posix? (String.ofList name) with
      | some s => do
        set { before with rest }
        some <$> flags.complement negated (flags.fold s)
      | none => return none
    | _, _ => return none
  | _ => return none

/-- The ways to join two sets of a class. -/
def setOperation (rest : List Char) : Option (CharSet → CharSet → CharSet) :=
  match rest with
  | '&' :: '&' :: _ => some .intersection
  | '-' :: '-' :: _ => some .difference
  | '~' :: '~' :: _ => some .symmetricDifference
  | _ => none

/-- The hyphens and the bracket that stand for themselves at the start of a class. -/
def leadingMembers : Nat → CharSet → Parse CharSet
  | 0, members => return members
  | fuel + 1, members => do
    if ← acceptSpaced '-' then leadingMembers fuel (.union members (.singleton '-'))
    else if members = .empty then
      if ← acceptSpaced ']' then return .singleton ']'
      return members
    else return members

mutual

/-- A class in brackets, from its opening bracket on. -/
def bracketed : Nat → Parse CharSet
  | 0 => failure
  | fuel + 1 => do
    let _ ← nextSpaced
    let negated ← acceptSpaced '^'
    let members ← leadingMembers fuel .empty
    let flags ← flags
    let members ← classMembers fuel id members
    flags.complement negated (flags.fold members)

/-- The rest of a class: its members so far, and what the operators before them make of the set of
them all. -/
def classMembers : Nat → (CharSet → CharSet) → CharSet → Parse CharSet
  | 0, _, _ => failure
  | fuel + 1, apply, members => do
    space
    let flags ← flags
    match setOperation (← get).rest with
    | some join => do
      drop 2
      let left := flags.fold (apply members)
      classMembers fuel (fun right => join left (flags.fold right)) .empty
    | none => match ← peek with
      | none => failure
      | some ']' => do
        drop 1
        return apply members
      | some '[' => match ← namedClass? with
        | some s => classMembers fuel apply (.union members s)
        | none => do
          let inner ← bracketed fuel
          classMembers fuel apply (.union members inner)
      | some _ => do
        let member ← classRange
        classMembers fuel apply (.union members member)

end

/-- A number that says how often something is repeated, if one is written. -/
def count : Parse (Option Nat) := do
  modify fun s => { s with rest := s.rest.dropWhile Text.isBlank }
  let digits ← takeWhile Char.isDigit
  modify fun s => { s with rest := s.rest.dropWhile Text.isBlank }
  space
  if digits.isEmpty then return none
  let n := digits.foldl (fun n c => 10 * n + (c.toNat - '0'.toNat)) 0
  ensure (n < Nat.pow 2 32)
  return some n

/-- The bounds of a repetition in braces, behind the opening one. -/
def bounds : Parse (Nat × Option Nat) := do
  space
  let least ← count
  let limits ← if ← acceptSpaced ',' then
      if (← peek) = some '\x7d' then pure (← least, none)
      else
        let least ← least
        let most ← count
        pure (least, some (← most))
    else
      let n ← least
      pure (n, some n)
  ensure ((← nextSpaced) = '\x7d')
  ensure (limits.2.all (limits.1 ≤ ·))
  return limits

def repeated : Nat → Pattern → Parse Pattern
  | 0, p => return p
  | fuel + 1, p => do
    space
    let again (least : Nat) (most : Option Nat) : Parse Pattern := do
      let _ ← accept "?"
      repeated fuel (.repetition p least most)
    match ← peek with
    | some '*' => drop 1; again 0 none
    | some '+' => drop 1; again 1 none
    | some '?' => drop 1; again 0 (some 1)
    | some '\x7b' => do
      drop 1
      let (least, most) ← bounds
      again least most
    | _ => return p

def Flags.switch (flags : Flags) (letter : Char) (on : Bool) : Option Flags :=
  match letter with
  | 'i' => some { flags with caseless := on }
  | 'm' => some { flags with lines := on }
  | 's' => some { flags with dotAll := on }
  | 'x' => some { flags with spaced := on }
  | 'R' => some { flags with crlf := on }
  | 'u' => some { flags with unicode := on }
  | 'U' => some flags
  | _ => none

/-- The flags that some letters leave. No letter stands there twice, nor a hyphen, nor a hyphen last. -/
def switches (letters : List Char) (flags : Flags) : Parse Flags := do
  ensure (letters.eraseDups.length = letters.length && letters.getLast? ≠ some '-')
  let (on, off) := letters.span (· ≠ '-')
  let flags ← on.foldlM (fun flags letter => flags.switch letter true) flags
  off.tail.foldlM (fun flags letter => flags.switch letter false) flags

/-- The name of a group, up to the bracket that closes it. -/
def groupName : Parse Unit := do
  let name := (← get).rest.takeWhile (· ≠ '>')
  drop name.length
  ensure ((← next) = '>')
  let isLetter (c : Char) : Bool := c = '_' || CharSet.alphabetic.contains c
  match name with
  | [] => failure
  | first :: others =>
    ensure (isLetter first && others.all fun c =>
      isLetter c || c = '.' || c = '[' || c = ']' || (CharSet.categories [.nd, .nl, .no]).contains c)
  ensure (!(← get).groups.contains name)
  modify fun s => { s with groups := name :: s.groups }

def setPattern (s : CharSet) : Parse Pattern := return .chars s

/-- A pattern for a character that stands for itself. -/
def literal (c : Char) : Parse Pattern := do
  let flags ← flags
  let plain := CharSet.singleton c
  return .chars (if flags.unicode || c.val < 128 then flags.fold plain else plain)

/-- What a character other than an operator stands for. -/
def primitive : Parse Pattern := do
  let flags ← flags
  match ← next with
  | '\\' => match ← escape with
    | .char c => literal c
    | .set s => setPattern s
    | .assertion a => return .assertion a
  | '.' =>
    ensure flags.unicode
    let excluded : CharSet :=
      if flags.dotAll then .empty
      else if flags.crlf then .union (.singleton '\n') (.singleton '\r')
      else .singleton '\n'
    setPattern (.complement excluded)
  | '^' => return .assertion (if flags.lines then .lineStart flags.crlf else .textStart)
  | '$' => return .assertion (if flags.lines then .lineEnd flags.crlf else .textEnd)
  | c => literal c

mutual

/-- Alternatives, up to the end or to the parenthesis that closes them. -/
def alternatives : Nat → Parse Pattern
  | 0 => failure
  | fuel + 1 => do
    let first ← items fuel .nothing
    if ← accept "|" then return .choice first (← alternatives fuel)
    return first

/-- What stands one behind the other. -/
def items : Nat → Pattern → Parse Pattern
  | 0, _ => failure
  | fuel + 1, before => do
    space
    match ← peek with
    | none | some '|' | some ')' => return before
    | some '(' => match ← group fuel with
      | some p => items fuel (.sequence before (← repeated fuel p))
      | none => do
        space
        ensure (!(← peek).any ("*+?\x7b".contains ·))
        items fuel before
    | some '[' => do
      let p ← setPattern (← bracketed fuel)
      items fuel (.sequence before (← repeated fuel p))
    | some c => do
      ensure (!"*+?\x7b".contains c)
      let p ← primitive
      items fuel (.sequence before (← repeated fuel p))

/-- A group from its opening parenthesis on. One that only switches flags is no pattern. -/
def group : Nat → Parse (Option Pattern)
  | 0 => failure
  | fuel + 1 => do
    let outer ← flags
    drop 1
    space
    let close : Parse (Option Pattern) := do
      let p ← alternatives fuel
      ensure ((← peek) = some ')')
      modify fun s => { s with flags := outer }
      drop 1
      return some p
    if ← ["?=", "?!", "?<=", "?<!"].anyM accept then failure
    else if ← accept "?P<" <||> accept "?<" then
      groupName
      close
    else if ← accept "?" then
      let letters := (← get).rest.takeWhile fun c => c ≠ ':' && c ≠ ')'
      drop letters.length
      let inner ← switches letters outer
      match ← next with
      | ')' =>
        ensure (!letters.isEmpty)
        modify fun s => { s with flags := inner }
        return none
      | _ =>
        modify fun s => { s with flags := inner }
        close
    else close

end

/-- How much room a set takes, next to one character below 128. -/
def CharSet.weight : CharSet → Nat
  | empty => 0
  | range _ last => if last.val < 128 then 1 else 2
  | categories names => 300 * names.length
  | blank => 10
  | union a b | intersection a b | difference a b | symmetricDifference a b => a.weight + b.weight
  | complement a => a.weight + 10
  | folded a => 2 * a.weight

/-- How much room a pattern takes once its repetitions are written out. -/
def weight : Pattern → Nat
  | nothing | assertion _ => 1
  | chars set => max 1 set.weight
  | sequence a b => a.weight + b.weight
  | choice a b => a.weight + b.weight + 1
  | repetition a least most => a.weight * max 1 (most.getD (least + 1)) + 1

def maxWeight : Nat := 327680

/-- The pattern that a text stands for. -/
def parse? (text : String) : Option Pattern := do
  let start : Reading := ⟨text.toList, {}, []⟩
  let (p, s) ← (alternatives (3 * text.length + 3)).run start
  if s.rest.isEmpty && p.weight ≤ maxWeight then some p else none

end Bundler.Pattern
