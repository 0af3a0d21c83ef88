import Bundler.Script.Parse.Pattern

/-!
Functions, object literals and classes.
-/

namespace Bundler.Script.Parse

/-! ### Blocks and bodies -/

/-- Whether a statement is a string and nothing else. -/
def isDirective (n : Node) : Bool :=
  match n.kind, n.children with
  | .expression, [inner] => match inner.kind with
    | .string .. => true
    | _ => false
  | _, _ => false

/-- Whether a statement asks for strict code. The string has to be spelled without escapes. -/
def isUseStrict (n : Node) : Bool :=
  match n.kind, n.children with
  | .expression, [inner] => match inner.kind with
    | .string _ (some raw) => raw == "\"use strict\"" || raw == "'use strict'"
    | _ => false
  | _, _ => false

/-- The statements up to the closing brace or, where `close` is false, up to the end. The first one
may make all others strict. -/
def statements (g : Grammar) (directives top close : Bool) : Parse (List Node) :=
  loop ([], directives, false) fun (found, first, strict) => do
    let enter (context : Context) : Context := if strict then { context with strict := true } else context
    within enter do
      if ← isAtEnd then
        if close then noteHere (.expected "\x7d" "<eof>")
        return .inr found.reverse
      if close && (← isAtMark .closeBrace) then
        advance
        return .inr found.reverse
      let one ← g.statement true top
      return .inl (one :: found, false, strict || (first && isUseStrict one))

def block (g : Grammar) (directives : Bool) : Parse Node := do
  let lo ← position
  expect .openBrace
  let found ← statements g directives false true
  node .block lo found

/-- Runs a parser with the labels and the notes of a new function. -/
def inNewFunction {α : Type} (parser : Parse α) : Parse α := do
  let outer ← get
  set { outer with labels := [], commas := [], arrowStart := none }
  let result ← parser
  modify fun reader =>
    { reader with labels := outer.labels, commas := outer.commas, arrowStart := outer.arrowStart }
  return result

/-- Complains about a body that asks for strict code behind parameters that are not all names. -/
def checkDirectives (simple : Bool) (body : Node) : Parse Unit := do
  if simple then return
  match (body.children.takeWhile isDirective).find? isUseStrict with
  | some directive => noteAt directive.lo .strictDirective
  | none => return

/-- The surroundings of a function's body. -/
def bodyContext (async generator arrow : Bool) (context : Context) : Context :=
  { context with
    inAsync := async, inGenerator := generator, inFunction := true, allowBreak := false
    allowContinue := false, inPlainFunction := if arrow then context.inPlainFunction else true }

def functionBody (g : Grammar) (async generator simple : Bool) : Parse Node :=
  within (bodyContext async generator false) do
    inNewFunction do
      let body ← allowingIn (block g true)
      checkDirectives simple body
      return body

/-- The body of an arrow function: a block or an expression. -/
def arrowBody (g : Grammar) (async simple : Bool) : Parse Node :=
  within (bodyContext async false true) do
    inNewFunction do
      if ← isAtMark .openBrace then
        let body ← block g false
        checkDirectives simple body
        return body
      else g.assignment

/-! ### Parameters -/

def isSimple (parameters : List Node) : Bool :=
  parameters.all fun n => match n.kind with
    | .name _ => true
    | _ => false

def parameter (g : Grammar) : Parse Node := do
  let lo ← position
  let left ← g.bindingPattern
  if ← eat (.assign .plain) then
    let right ← g.assignment
    node .defaulted lo [left, right]
  else return left

/-- A parameter behind `...`; in a constructor it has no default. -/
def restParameter (g : Grammar) (lo : Nat) (defaults : Bool) : Parse Node := do
  let left ← g.bindingPattern
  if ← pure defaults <&&> eat (.assign .plain) then
    let right ← g.assignment
    noteAt left.lo .restInitializer
    node .rest lo [← node .defaulted lo [left, right]]
  else node .rest lo [left]

def parameters (g : Grammar) (defaults : Bool) : Parse (List Node) :=
  loop ([], none) fun ((found, restAt) : List Node × Option Nat) => do
    if (← isAtEnd) || (← isAtMark .closeParen) then return .inr found.reverse
    match restAt with
    | some offset => noteAt offset .lastRestParameter
    | none => pure ()
    let lo ← position
    let rest ← eatMark .ellipsis
    let one ← if rest then restParameter g lo defaults else parameter g
    if !(← isAtMark .closeParen) then
      expect .comma
      if rest && (← isAtMark .closeParen) then noteAt (← lastStart) .commaAfterRest
    return .inl (one :: found, if rest then some lo else restAt)

/-- Complains about the parameters of a getter or a setter. -/
def checkAccessor (kind : MethodKind) (offset : Nat) (found : List Node) : Parse Unit := do
  match kind with
  | .plain => return
  | .getter => if !found.isEmpty then noteAt offset .getterParameters
  | .setter =>
    if found.length ≠ 1 then noteAt offset .setterParameters
    match found with
    | first :: _ => if first.kind = .rest then noteAt first.lo .setterRest
    | [] => return

def signature (g : Grammar) (async generator : Bool) (kind : MethodKind) (offset : Nat) :
    Parse (List Node) :=
  within (fun context => { context with inAsync := async, inGenerator := generator }) do
    expect .openParen
    let found ← within (fun context => { context with inParameters := true, inFunction := false }) do
      let found ← parameters g true
      checkAccessor kind offset found
      return found
    expect .closeParen
    let body ← functionBody g async generator (isSimple found)
    return found ++ [body]

/-- A function from the word `function` on; `lo` is the start of the whole. -/
def functionFrom (g : Grammar) (lo : Nat) (async declaration : Bool) : Parse Node := do
  advance
  let generator ← eat (.binary .times)
  let outside (context : Context) : Context := { context with allowSuper := false, inClassField := false }
  let named (context : Context) : Context :=
    if declaration then outside context
    else { outside context with inAsync := async, inGenerator := generator }
  let name ← within named (bindingName? declaration)
  within outside do
    let rest ← signature g async generator .plain lo
    node (if declaration then .functionDeclaration async generator else .function async generator) lo
      (name :: rest)

/-- A function whose current word is `async`. -/
def asyncFunction (g : Grammar) (declaration : Bool) : Parse Node := do
  let lo ← position
  advance
  functionFrom g lo true declaration

/-! ### Object literals -/

def methodContext (context : Context) : Context := { context with allowSuper := true, inClassField := false }

/-- A method of an object from its parameters on. -/
def objectMethod (g : Grammar) (lo : Nat) (key : Node) (kind : MethodKind) (async generator : Bool) :
    Parse Node :=
  within methodContext do
    let rest ← signature g async generator kind key.lo
    node (.method kind async generator) (if kind = .plain then key.lo else lo) (key :: rest)

/-- A property of an object behind a name that is neither followed by `:` nor by `(`. -/
def namedProperty (g : Grammar) (lo : Nat) (key : Node) (name : String) : Parse Node := do
  if ← eatMark .question then noteAt (← lastStart) .optionalMember
  if (← isAt (.assign .plain)) || (← isAtMark .comma) || (← isAtMark .closeBrace) then
    if (← read).reservesShorthand name then noteAt key.lo .reservedShorthand
    if ← eat (.assign .plain) then
      let value ← allowingIn g.assignment
      return ← node .shorthand lo [key, value]
    return .mk .shorthand key.lo key.hi [key, .none]
  match name with
  | "get" => objectMethod g lo (← propertyKey g) .getter false false
  | "set" => objectMethod g lo (← propertyKey g) .setter false false
  | "async" =>
    let generator ← eat (.binary .times)
    objectMethod g lo (← propertyKey g) .plain true generator
  | _ => unexpected "... , *,  (, [, :, , ?, = or an identifier"

def objectProperty (g : Grammar) : Parse Node := do
  let lo ← position
  if ← eatMark .ellipsis then
    let inner ← allowingIn g.assignment
    return ← node .spread lo [inner]
  if ← eat (.binary .times) then
    return ← objectMethod g lo (← propertyKey g) .plain false true
  let key ← propertyKey g
  if ← eatMark .colon then
    let value ← allowingIn g.assignment
    return .mk .property key.lo value.hi [key, value]
  if ← isAtMark .openParen then return ← objectMethod g lo key .plain false false
  match key.kind with
  | .name name => namedProperty g lo key name
  | _ => unexpected "identifier"

def objectLiteral (g : Grammar) : Parse Node := do
  let lo ← position
  let (found, comma) ← properties (objectProperty g)
  match comma with
  | some offset => modify fun reader => { reader with commas := (lo, offset) :: reader.commas }
  | none => pure ()
  node .object lo found

/-! ### Classes -/

/-- Whether a key names the constructor. -/
def isConstructor (key : Node) : Bool :=
  match key.kind with
  | .name "constructor" => true
  | .string "constructor" _ => true
  | _ => false

/-- Whether a field without a value can end here. -/
def isAtFieldEnd (newlines : Bool) : Parse Bool := do
  if (← isAt (.assign .plain)) || (← isAtMark .closeBrace) then return true
  if newlines then isAtSemicolon else isAtMark .semicolon

/-- A method of a class from its parameters on. -/
def classMethod (g : Grammar) (lo : Nat) (key : Node) (static : Bool) (kind : MethodKind)
    (async generator : Bool) (offset : Nat) : Parse Node :=
  within methodContext do
    let rest ← signature g async generator kind offset
    node (.classMethod static kind async generator) lo (key :: rest)

def classField (g : Grammar) (lo : Nat) (key : Node) (static : Bool) : Parse Node := do
  if isConstructor key then failAt key.lo .constructorProperty
  let inside (context : Context) : Context :=
    { context with
      allowIn := true, inClassField := true, inFunction := false, inAsync := false, inGenerator := false }
  within inside do
    let value ← if ← eat (.assign .plain) then g.assignment else pure .none
    if !(← eatSemicolon) then noteHere .semicolonExpected
    node (.classField static) lo [key, value]

def classConstructor (g : Grammar) (lo : Nat) (key : Node) : Parse Node := do
  expect .openParen
  let found ← parameters g false
  expect .closeParen
  let body ← functionBody g false false (isSimple found)
  node .constructor lo (key :: (found ++ [body]))

def staticBlock (g : Grammar) (lo : Nat) : Parse Node := do
  let inside (context : Context) : Context := { context with inStaticBlock := true, inClassField := true }
  let body ← within inside (block g false)
  node .staticBlock lo [body]

/-- A member behind a key that is neither followed by `(` nor the name of a field. -/
def modifiedMember (g : Grammar) (lo : Nat) (key : Node) (static : Bool) : Parse Node := do
  let accessor := match key.kind with
    | .name "get" => some MethodKind.getter
    | .name "set" => some MethodKind.setter
    | _ => none
  let generatorBelow := (← newlineBefore) && (← isAt (.binary .times))
  let accessor ← if generatorBelow || (← isAtFieldEnd false) then pure none else pure accessor
  match accessor with
  | some kind =>
    let modifier := key.lo
    let key ← memberKey g
    if isConstructor key then noteAt modifier .constructorAccessor
    classMethod g lo key static kind false false modifier
  | none =>
    if ← isAtFieldEnd true then return ← classField g lo key static
    if key.kind = .name "async" && !(← newlineBefore) then
      let generator ← eat (.binary .times)
      let key ← memberKey g
      if isConstructor key then failAt key.lo .constructorAsync
      return ← classMethod g lo key static .plain true generator key.lo
    unexpected "* for generator, private key, identifier or async"

/-- A member behind the word `static`, or one without it. -/
def memberFrom (g : Grammar) (lo : Nat) (static : Bool) : Parse Node := do
  if static && (← isAtMark .openBrace) then return ← staticBlock g lo
  if ← eat (.binary .times) then
    let key ← memberKey g
    if isConstructor key then noteHere .constructorGenerator
    return ← classMethod g lo key static .plain false true key.lo
  let key ← memberKey g
  if ← isAtMark .openParen then
    if isConstructor key then
      let found ← classConstructor g lo key
      if static then noteAt lo .constructorModifier
      return found
    return ← classMethod g lo key static .plain false false key.lo
  modifiedMember g lo key static

/-- A member of a class. The word `static` may be the key of a member itself. -/
def member (g : Grammar) : Parse Node := do
  let lo ← position
  if ← eat (.ident "static") then
    let key ← node (.name "static") lo []
    if ← isAtMark .openParen then return ← classMethod g lo key false .plain false false key.lo
    if ← isAtFieldEnd false then return ← classField g lo key false
    return ← memberFrom g lo true
  memberFrom g lo false

def members (g : Grammar) : Parse (List Node) :=
  loop ([], false) fun (found, constructed) => do
    if (← isAtEnd) || (← isAtMark .closeBrace) then return .inr found.reverse
    if ← eatMark .semicolon then
      return .inl (.mk .empty (← lastStart) (← lastEnd) [] :: found, constructed)
    let one ← within (fun context => { context with allowSuper := true }) (member g)
    let isOne := one.kind = .constructor
    if isOne && constructed then noteAt one.lo .repeatedConstructor
    return .inl (one :: found, constructed || isOne)

/-- Further superclasses, which may not be there. -/
def furtherSuperclasses (g : Grammar) : Parse Unit :=
  loop () fun _ => do
    if ← isAtWord .extendsWord then
      noteHere .repeatedExtends
      advance
      let _ ← g.leftHand
      return .inl ()
    return .inr ()

/-- A class from the word `class` on. -/
def classFrom (g : Grammar) (declaration : Bool) : Parse Node :=
  within (fun context => { context with strict := true, inClass := true }) do
    let lo ← position
    expectWord .classWord
    let name ← bindingName? declaration
    let base ← if ← eatWord .extendsWord then do
        let base ← g.leftHand
        furtherSuperclasses g
        pure base
      else pure .none
    expect .openBrace
    let found ← members g
    if ← isAtEnd then noteHere (.expected "\x7d" "<eof>") else expect .closeBrace
    node (if declaration then .classDeclaration else .classExpression) lo (name :: (found ++ [base]))

end Bundler.Script.Parse
