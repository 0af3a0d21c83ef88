import Bundler.Script.Parse.Basic

/-!
Names: of variables, of properties and of labels.
-/

namespace Bundler.Script.Parse

/-- The name of a variable. Whether `yield` and `await` are names depends on the surroundings. -/
def identifier (allowYield allowAwait : Bool) : Parse Node := do
  let lo ← position
  let context ← read
  match ← require with
  | .ident name =>
    advance
    if name == "enum" then noteAt (← lastStart) (.strictIdentifier name)
    if name == "arguments" && context.inClassField then noteAt (← lastStart) .argumentsInField
    node (.name name) lo []
  | .keyword word =>
    advance
    match word with
    | .letWord => node (.name word.text) lo []
    | .awaitWord =>
      if context.inStaticBlock then failHere .identifierExpected
      else if context.inAsync then failAt (← lastStart) .awaitName
      else if allowAwait then node (.name word.text) lo []
      else failAt (← lastStart) .identifierExpected
    | .yieldWord =>
      if allowYield then node (.name word.text) lo [] else failAt (← lastStart) .identifierExpected
    | _ => failAt (← lastStart) .identifierExpected
  | _ => failHere .identifierExpected

/-- A name that a declaration binds. -/
def bindingName : Parse Node := do
  let found ← identifier true true
  let context ← read
  match found.kind with
  | .name "await" => if context.inAsync || context.inStaticBlock then noteAt found.lo .identifierExpected
  | .name "yield" => if context.inGenerator then noteAt found.lo .identifierExpected
  | _ => pure ()
  return found

/-- A name that may be left out, `absent` then. -/
def bindingName? (required : Bool) : Parse Node := do
  if required || (← isAtBindable) then bindingName else return .none

/-- A variable that is used, or a label. -/
def reference : Parse Node := do
  let context ← read
  identifier (!context.inGenerator) (!context.inAsync)

/-- Any word, as the name of a property. -/
def word : Parse Node := do
  let lo ← position
  match ← require with
  | .ident name =>
    advance
    node (.name name) lo []
  | .keyword word =>
    advance
    node (.name word.text) lo []
  | _ => failHere .identifierExpected

/-- A word behind `#`, without a blank between them. -/
def privateName : Parse Node := do
  let lo ← position
  advance
  let hashEnd ← lastEnd
  if (← position) ≠ hashEnd then failAt lo .spaceAfterHash
  match (← word).kind with
  | .name name => node (.privateName name) lo []
  | _ => node .invalid lo []

/-- The key of a property. -/
def propertyKey (g : Grammar) : Parse Node := do
  let lo ← position
  match ← require with
  | .string value raw =>
    advance
    node (.string value (some raw)) lo []
  | .number raw value =>
    advance
    node (.number raw (value = .infinite)) lo []
  | .bigint raw =>
    advance
    node (.bigint raw) lo []
  | .ident _ => word
  | .keyword _ => word
  | .mark .openBracket =>
    advance
    let inner ← allowingIn g.assignment
    expect .closeBracket
    node .computed lo [inner]
  | _ => unexpected "identifier, string literal, numeric literal or [ for the computed key"

def memberKey (g : Grammar) : Parse Node := do
  if ← isAtMark .hash then
    let key ← privateName
    if key.kind = .privateName "constructor" then noteAt key.lo .privateConstructor
    return key
  propertyKey g

end Bundler.Script.Parse
