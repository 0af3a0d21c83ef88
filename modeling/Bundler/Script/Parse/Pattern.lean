import Bundler.Script.Parse.Name

/-!
Patterns: those that declarations bind, and expressions that turn out to be patterns.
-/

namespace Bundler.Script

/-- Whether a value can be stored into an expression as it stands. -/
def Node.isReference (strict : Bool) : Node → Bool
  | .mk kind _ _ children =>
    match kind, children with
    | .name text, _ => !(strict && (text == "eval" || text == "arguments"))
    | .parens, [inner] => inner.isReference strict
    | .member, _ => true
    | _, _ => false

namespace Parse

/-! ### Patterns of declarations -/

/-- A pattern and its default. -/
def bindingElement (g : Grammar) : Parse Node := do
  let lo ← position
  let left ← g.bindingPattern
  if ← eat (.assign .plain) then
    let right ← allowingIn g.assignment
    node .defaulted lo [left, right]
  else return left

/-- The elements of an array pattern: a comma stands for a hole unless it follows an element. No
element may follow one with `...`. -/
def bindingElements (g : Grammar) : Parse (List Node) :=
  loop ([], none) fun ((found, restAt) : List Node × Option Nat) => do
    if (← isAtEnd) || (← isAtMark .closeBracket) then return .inr found.reverse
    if ← eatMark .comma then return .inl (.none :: found, restAt)
    match restAt with
    | some offset => noteAt offset .lastRestElement
    | none => pure ()
    let lo ← position
    let rest ← eatMark .ellipsis
    let element ← if rest then node .rest lo [← g.bindingPattern] else bindingElement g
    if !(← isAtMark .closeBracket) then
      expect .comma
      if rest && (← isAtMark .closeBracket) then noteAt (← lastStart) .commaAfterRest
    return .inl (element :: found, if rest then some lo else restAt)

def arrayBinding (g : Grammar) : Parse Node := do
  let lo ← position
  advance
  let elements ← bindingElements g
  expect .closeBracket
  node .arrayPattern lo elements

/-- A property of an object pattern. -/
def bindingProperty (g : Grammar) : Parse Node := do
  let lo ← position
  if ← eatMark .ellipsis then
    let inner ← g.bindingPattern
    return ← node .rest lo [inner]
  let key ← propertyKey g
  if ← eatMark .colon then
    let value ← bindingElement g
    return .mk .property key.lo value.hi [key, value]
  match key.kind with
  | .name name =>
    if ← eat (.assign .plain) then
      let value ← allowingIn g.assignment
      node .shorthand lo [key, value]
    else
      if (← read).reservesShorthand name then noteAt key.lo .reservedShorthand
      node .shorthand lo [key, .none]
  | _ => unexpected "an identifier"

/-- Complains about a `...` in an object pattern that is not last or does not bind a name. -/
def checkRest (comma : Option Nat) : List Node → Parse Unit
  | [] => return
  | [last] =>
    match last.kind, last.children with
    | .rest, [inner] =>
      match inner.kind with
      | .name _ => match comma with
        | some offset => noteAt offset .commaAfterRest
        | none => return
      | _ => failAt last.lo .restNotIdentifier
    | _, _ => return
  | property :: others => do
    if property.kind = .rest then noteAt property.lo .lastRestElement
    checkRest comma others

/-- The properties between braces, and the comma behind the last one. -/
def properties (property : Parse Node) : Parse (List Node × Option Nat) := do
  advance
  loop ([], none) fun (found, comma) => do
    if ← eatMark .closeBrace then return .inr (found.reverse, comma)
    let one ← property
    if !(← isAtMark .closeBrace) then
      expect .comma
      if ← isAtMark .closeBrace then return .inl (one :: found, some (← lastStart))
    return .inl (one :: found, comma)

def objectBinding (g : Grammar) : Parse Node := do
  let lo ← position
  let (found, comma) ← properties (bindingProperty g)
  let pattern ← node .objectPattern lo found
  checkRest comma found
  return pattern

def bindingPattern (g : Grammar) : Parse Node := do
  match ← require with
  | .ident _ => bindingName
  | .keyword _ => bindingName
  | .mark .openBracket => arrayBinding g
  | .mark .openBrace => objectBinding g
  | _ => unexpected "yield, an identifier, [ or \x7b"

/-! ### Expressions that are patterns -/

/-- A wrong piece of a pattern. -/
def notPattern (n : Node) : Parse Node := do
  noteAt n.lo .notPattern
  return .mk .invalid n.lo n.hi []

/-- A property of an object literal as a property of an object pattern; `comma` is the place of a
comma behind the last one. -/
def propertyPattern (g : Grammar) (role : PatternRole) (comma : Option Nat) (isLast : Bool) (n : Node) :
    Parse Node := do
  match n.kind, n.children with
  | .shorthand, _ => return n
  | .property, [key, value] => return .mk .property n.lo n.hi [key, ← g.pattern role.part value]
  | .spread, [inner] =>
    match isLast, comma with
    | false, _ => noteAt n.lo .lastRestElement
    | true, some offset => noteAt offset .commaAfterRest
    | true, none => pure ()
    let pattern ← match role.part, inner.kind with
      | .bindingPart, .name _ => pure inner
      | .bindingPart, _ => do
        noteAt n.lo .restNotIdentifier
        pure (Node.mk .invalid n.lo n.hi [])
      | part, _ => g.pattern part inner
    if pattern.kind = .defaulted then noteAt n.lo .restInitializer
    return .mk .rest n.lo n.hi [pattern]
  | _, _ => failAt n.lo .notPattern

def propertyPatterns (g : Grammar) (role : PatternRole) (comma : Option Nat) :
    List Node → Parse (List Node)
  | [] => return []
  | n :: rest => do
    let first ← propertyPattern g role comma rest.isEmpty n
    return first :: (← propertyPatterns g role comma rest)

/-- The elements of an array literal as elements of an array pattern; `comma` is the place of a comma
behind the last one. Holes at the end are dropped. -/
def elementPatterns (g : Grammar) (role : PatternRole) (comma : Option Nat) (holes : Bool) :
    List Node → Parse (List Node)
  | [] => return []
  | n :: rest => do
    let isLast := rest.isEmpty && !holes
    match n.kind, n.children with
    | .spread, [inner] =>
      if isLast then
        if inner.kind = .assign .plain then noteAt n.lo .restInitializer
        match comma with
        | some offset => noteAt offset .commaAfterRest
        | none => pure ()
        let pattern ← g.pattern role.part inner
        return [.mk .rest inner.lo inner.hi [pattern]]
      else
        noteAt n.lo .lastRestElement
        elementPatterns g role comma holes rest
    | .absent, _ => return n :: (← elementPatterns g role comma holes rest)
    | _, _ =>
      let first ← g.pattern role.part n
      return first :: (← elementPatterns g role comma holes rest)

/-- Complains about an expression that nothing can be stored into. -/
def checkReference (n : Node) : Parse Unit := do
  if !n.isReference (← read).strict then noteAt n.lo .invalidReference

/-- The parts of a literal or an assignment, read again. -/
def structuredPattern (g : Grammar) (role : PatternRole) (n : Node) : Parse Node := do
  let comma := ((← get).commas.find? (·.1 = n.lo)).map (·.2)
  match n.kind, n.children with
  | .assign .plain, [left, right] =>
    let left ← match left.kind with
      | .arrayPattern => pure left
      | .objectPattern => pure left
      | _ => g.pattern role left
    return .mk .defaulted n.lo n.hi [left, right]
  | .object, props => return .mk .objectPattern n.lo n.hi (← propertyPatterns g role comma props)
  | .name _, _ => return n
  | .array, elements =>
    let kept := (elements.reverse.dropWhile Node.isAbsent).reverse
    let holes := kept.length ≠ elements.length
    return .mk .arrayPattern n.lo n.hi (← elementPatterns g role comma holes kept)
  | _, _ => notPattern n

/-- Whether a part of an assignment's target that is no literal is looked at as a reference. -/
def isTargetPart : Kind → Bool
  | .member | .call | .new _ | .string .. | .number .. | .bigint _ | .regex .. | .boolean _ | .null
  | .name _ | .function .. | .classExpression | .parens | .template _ => true
  | _ => false

/-- An expression, read again as a pattern. -/
def patternOf (g : Grammar) (role : PatternRole) (n : Node) : Parse Node := do
  if n.kind = .invalid then return n
  let isLiteral := n.kind = .array || n.kind = .object
  match role with
  | .target =>
    if isLiteral then structuredPattern g role n
    else
      checkReference n
      return n
  | .targetPart =>
    if isLiteral || n.kind = .assign .plain then structuredPattern g role n
    else if isTargetPart n.kind then
      if !n.isReference (← read).strict then noteAt n.lo .notAssignable
      return n
    else
      noteAt n.lo .notPattern
      notPattern n
  | _ => structuredPattern g role n

end Parse

end Bundler.Script
