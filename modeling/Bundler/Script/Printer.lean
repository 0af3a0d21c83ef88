import Bundler.Script.Literal
import Bundler.Script.Sheet
import Bundler.Script.Syntax

/-!
Printing a tree: four columns for each level of indentation, a statement on each line, and literals
as they were written. Comments come out where their token does; those whose place is not printed are
dropped.
-/

namespace Bundler.Script.Printer

open Print

/-- A child of a node with what prints it. -/
abbrev Part := Node × Print Unit

/-! ### What stands around a node -/

/-- A node whose own comments are printed before it only. -/
def bare (part : Part) : Print Unit := part.2

/-- An expression or a pattern, with the comments behind it. -/
def operand (part : Part) : Print Unit := do
  part.2
  trailing part.1.hi true

/-- A statement on its line. A block does not end the line, and a declaration of variables has its
semicolon only here. -/
def statement (part : Part) : Print Unit := do
  part.2
  match part.1.kind with
  | .block => return
  | .variableDeclaration _ => write ";"
  | _ => pure ()
  trailing part.1.hi true
  newline

/-- A part that may be absent. -/
def optional (print : Part → Print Unit) (part : Part) : Print Unit :=
  if part.1.isAbsent then return else print part

/-! ### Lists -/

/-- The comments that stand before the last character of an item. -/
def behindItem (parentHi : Nat) (item : Node) : Print Unit :=
  if item.hi ≠ parentHi && !item.isAbsent then leading (item.hi - 1) else return

/-- Items on one line with commas between them. -/
def inlineItems (print : Part → Print Unit) (parentHi : Nat) (meeting : Bool) :
    Option Node → List Part → Print Unit
  | previous, [] =>
    match previous with
    | some item => behindItem parentHi item
    | none => return
  | previous, part :: rest => do
    match previous with
    | some item =>
      behindItem parentHi item
      write ","
      space
    | none => pure ()
    if meeting then trailing part.1.lo false
    print part
    if rest.isEmpty && part.1.isAbsent then
      write ","
      space
    inlineItems print parentHi meeting (some part.1) rest

def inline (print : Part → Print Unit) (parentHi : Nat) (parts : List Part) : Print Unit :=
  inlineItems print parentHi true none parts

/-- Items on lines of their own with commas between them. -/
def blockItems (print : Part → Print Unit) (parentHi : Nat) : Option Node → List Part → Print Unit
  | previous, [] =>
    match previous with
    | some item => behindItem parentHi item
    | none => return
  | previous, part :: rest => do
    match previous with
    | some item =>
      behindItem parentHi item
      write ","
      newline
    | none => pure ()
    print part
    if rest.isEmpty && part.1.isAbsent then
      write ","
      space
    blockItems print parentHi (some part.1) rest

/-- The items of a literal, each on a line. -/
def stacked (print : Part → Print Unit) (parentHi : Nat) (parts : List Part) : Print Unit := do
  if parts.isEmpty then return
  newline
  indented (blockItems print parentHi none parts)
  newline

/-- Nodes that end their lines themselves. -/
def lines (print : Part → Print Unit) : List Part → Print Unit
  | [] => return
  | part :: rest => do
    print part
    newline
    lines print rest

/-! ### Blocks and functions -/

def braces (hi : Nat) (parts : List Part) : Print Unit := do
  write "\x7b"
  if !parts.isEmpty || (← isLed (hi - 1)) then
    newline
    indented (lines statement parts)
    newline
  leading (hi - 1)
  write "\x7d"

def parameters (hi : Nat) (parts : List Part) : Print Unit := do
  write "("
  inline operand hi parts
  write ")"

/-- The parameters and the body of a function, which are its last parts. -/
def signature (hi : Nat) (parts : List Part) : Print Unit := do
  parameters hi parts.dropLast
  space
  match parts.getLast? with
  | some body => body.2
  | none => return

/-! ### Expressions -/

/-- The pieces of a template with the expressions between them. -/
def pieces : List String → List Part → Print Unit
  | [], _ => return
  | piece :: others, parts => do
    write piece
    match parts with
    | [] => return
    | part :: parts =>
      write "$\x7b"
      operand part
      write "\x7d"
      pieces others parts

def template (texts : List String) (parts : List Part) : Print Unit := do
  write "`"
  pieces texts parts
  write "`"

/-- A callee or an object: behind `new` the trailing comments are left out. -/
def base (part : Part) : Print Unit :=
  match part.1.kind with
  | .new _ => bare part
  | .super => bare part
  | .importWord => bare part
  | _ => operand part

/-- Whether a dot behind a number would be read as a part of it. -/
def needsDot (object : Node) : Bool :=
  match object.kind with
  | .number raw infinite =>
    let digits := raw.toList.filter (· ≠ '_')
    !infinite && digits.all Char.isDigit && !(digits.length > 1 && digits.head? = some '0')
  | _ => false

/-- A property behind an object. -/
def member (object property : Part) : Print Unit := do
  match object.1.kind with
  | .number .. => bare object
  | _ => base object
  match property.1.kind with
  | .computed => bare property
  | _ =>
    if needsDot object.1 then
      leading (property.1.lo - 2)
      write "."
    leading (property.1.lo - 1)
    write "."
    bare property

def chainMember (isOptional : Bool) (object property : Part) : Print Unit := do
  base object
  if isOptional then write "?."
  else if property.1.kind ≠ .computed then write "."
  bare property

def arguments (hi : Nat) (parts : List Part) : Print Unit := parameters hi parts

/-- A value behind a word, in parentheses if a comment leads it. -/
def valueBehind (part : Part) : Print Unit := do
  if ← isLed part.1.lo then
    write "("
    operand part
    write ")"
  else
    space
    operand part

def unary (op : UnaryOp) (part : Part) : Print Unit := do
  write op.text
  let again := match op, part.1.kind with
    | .plus, .unary .plus => true
    | .plus, .update .increment true => true
    | .minus, .unary .minus => true
    | .minus, .update .decrement true => true
    | _, _ => op.isWord
  if again then space
  operand part

def assignment (op : AssignOp) (target value : Part) : Print Unit := do
  bare target
  space
  write op.text
  space
  operand value

def arrow (async : Bool) (hi : Nat) (parts : List Part) : Print Unit := do
  if async then write "async "
  parameters hi parts.dropLast
  write "=>"
  match parts.getLast? with
  | some body => if body.1.kind = .block then body.2 else indented (operand body)
  | none => return

def functionHead (async generator : Bool) : Print Unit := do
  if async then write "async "
  write "function"
  if generator then write "*"

/-- A function from its name on. -/
def namedFunction (hi : Nat) : List Part → Print Unit
  | [] => return
  | name :: rest => do
    if !name.1.isAbsent then
      space
      bare name
    signature hi rest

def classParts (hi : Nat) : List Part → Print Unit
  | [] => return
  | name :: rest => do
    write "class"
    if !name.1.isAbsent then
      space
      bare name
    match rest.getLast? with
    | some base =>
      if !base.1.isAbsent then
        write " extends "
        operand base
    | none => pure ()
    space
    write "\x7b"
    newline
    indented (lines bare rest.dropLast)
    leading (hi - 1)
    write "\x7d"

/-- The words before the key of a method. -/
def methodWords (static : Bool) (kind : MethodKind) (async generator : Bool) : Print Unit := do
  if static then write "static "
  match kind with
  | .getter => write "get "
  | .setter => write "set "
  | .plain =>
    if async then write "async "
    if generator then write "*"

/-- A method of an object from its key on. -/
def objectMethod (kind : MethodKind) (hi : Nat) (key : Part) (rest : List Part) : Print Unit := do
  bare key
  space
  match kind with
  | .setter =>
    write "("
    rest.dropLast.forM operand
    write ")"
    match rest.getLast? with
    | some body => body.2
    | none => return
  | _ => signature hi rest

/-- The words and values of a declaration. -/
def declaration (kind : VariableKind) (hi : Nat) (parts : List Part) : Print Unit := do
  write kind.text
  space
  inline bare hi parts

/-! ### Statements -/

def ifParts (test yes no : Part) : Print Unit := do
  write "if ("
  operand test
  write ") "
  statement yes
  if !no.1.isAbsent then
    if yes.1.kind = .block then space
    write "else "
    statement no

def tryParts (body handler finalizer : Part) : Print Unit := do
  write "try "
  bare body
  if !handler.1.isAbsent then
    space
    bare handler
  if !finalizer.1.isAbsent then
    write " finally"
    bare finalizer

def catchParts (target body : Part) : Print Unit := do
  write "catch "
  if !target.1.isAbsent then
    write "("
    operand target
    write ")"
  space
  bare body

/-- The start of a loop: a declaration or an expression. -/
def loopStart (part : Part) : Print Unit :=
  match part.1.kind with
  | .variableDeclaration _ => bare part
  | _ => operand part

def forParts (start test step body : Part) : Print Unit := do
  write "for("
  optional loopStart start
  write ";"
  if !test.1.isAbsent then
    space
    operand test
  write ";"
  if !step.1.isAbsent then
    space
    operand step
  write ")"
  statement body

def caseParts (test : Part) (body : List Part) : Print Unit := do
  if test.1.isAbsent then write "default"
  else
    write "case "
    operand test
  write ":"
  if !body.isEmpty then
    newline
    indented (lines statement body)

def switchParts (value : Part) (cases : List Part) : Print Unit := do
  write "switch("
  operand value
  write ")\x7b"
  newline
  indented (lines bare cases)
  write "\x7d"

/-- What prints a node, given what prints its children. -/
def parts (kind : Kind) (hi : Nat) (children : List Part) : Print Unit := do
  match kind, children with
  | .name text, _ => write text
  | .privateName text, _ => write ("#" ++ text)
  | .string value raw, _ => write (raw.getD (Literal.quote value))
  | .number raw infinite, _ => write (if infinite then "Infinity" else raw)
  | .bigint raw, _ => write raw
  | .regex pattern flags, _ => write ("/" ++ pattern ++ "/" ++ flags)
  | .boolean value, _ => write (if value then "true" else "false")
  | .null, _ => write "null"
  | .this, _ => write "this"
  | .super, _ => write "super"
  | .importWord, _ => write "import"
  | .newTarget, _ => write "new.target"
  | .array, elements =>
    write "["
    stacked operand hi elements
    write "]"
  | .object, properties =>
    write "\x7b"
    if properties.isEmpty && (← isLed (hi - 1)) then newline
    stacked bare hi properties
    write "\x7d"
  | .spread, [inner] =>
    write "..."
    operand inner
  | .template texts, exprs => template texts exprs
  | .taggedTemplate texts, tag :: exprs =>
    base tag
    template texts exprs
  | .parens, [inner] =>
    write "("
    operand inner
    write ")"
  | .sequence, first :: others =>
    operand first
    others.forM fun part => do
      write ", "
      operand part
  | .unary op, [inner] => unary op inner
  | .update op before, [inner] =>
    if before then write op.text
    operand inner
    if !before then write op.text
  | .binary op, [left, right] =>
    operand left
    write (" " ++ op.text ++ " ")
    operand right
  | .assign op, [target, value] => assignment op target value
  | .conditional, [test, yes, no] =>
    operand test
    write " ? "
    operand yes
    write " : "
    operand no
  | .call, callee :: args =>
    base callee
    arguments hi args
  | .new hasArguments, callee :: args =>
    write "new "
    operand callee
    if hasArguments then arguments hi args
  | .member, [object, property] => member object property
  | .chainMember isOptional, [object, property] => chainMember isOptional object property
  | .chainCall isOptional, callee :: args =>
    operand callee
    if isOptional then write "?."
    arguments hi args
  | .computed, [inner] =>
    write "["
    operand inner
    write "]"
  | .arrow async, all => arrow async hi all
  | .function async generator, all =>
    functionHead async generator
    namedFunction hi all
  | .functionDeclaration async generator, all =>
    functionHead async generator
    namedFunction hi all
  | .classExpression, all => classParts hi all
  | .classDeclaration, all => classParts hi all
  | .yield delegate, [inner] =>
    write "yield"
    if delegate then write "*"
    optional valueBehind inner
  | .await, [inner] =>
    write "await "
    operand inner
  | .arrayPattern, elements =>
    write "["
    inlineItems operand hi false none elements
    write "]"
  | .objectPattern, [] => write "\x7b\x7d"
  | .objectPattern, properties =>
    write "\x7b "
    inline bare hi properties
    write " \x7d"
  | .rest, [inner] =>
    write "..."
    operand inner
  | .defaulted, [left, right] =>
    operand left
    write " = "
    operand right
  | .property, [key, value] =>
    bare key
    write ": "
    operand value
  | .shorthand, [key, value] =>
    bare key
    if !value.1.isAbsent then
      write " = "
      operand value
  | .method kind async generator, key :: rest =>
    methodWords false kind async generator
    objectMethod kind hi key rest
  | .constructor, _ :: rest =>
    write "constructor"
    parameters hi rest.dropLast
    match rest.getLast? with
    | some body => body.2
    | none => return
  | .classMethod static kind async generator, key :: rest =>
    methodWords static kind async generator
    bare key
    signature hi rest
  | .classField static, [key, value] =>
    if static then write "static "
    bare key
    if !value.1.isAbsent then
      write " = "
      operand value
    write ";"
  | .staticBlock, [body] =>
    write "static"
    bare body
  | .block, body => braces hi body
  | .empty, _ => write ";"
  | .debugger, _ => write "debugger;"
  | .with, [object, body] =>
    write "with ("
    operand object
    write ")"
    statement body
  | .return, [value] =>
    write "return"
    optional valueBehind value
    write ";"
  | .labelled, [label, body] =>
    bare label
    write ": "
    statement body
  | .break, [label] =>
    write "break"
    if !label.1.isAbsent then space
    optional bare label
    write ";"
  | .continue, [label] =>
    write "continue"
    if !label.1.isAbsent then space
    optional bare label
    write ";"
  | .if, [test, yes, no] => ifParts test yes no
  | .switch, value :: cases => switchParts value cases
  | .case, test :: body => caseParts test body
  | .throw, [value] =>
    write "throw "
    operand value
    write ";"
  | .try, [body, handler, finalizer] => tryParts body handler finalizer
  | .catch, [target, body] => catchParts target body
  | .while, [test, body] =>
    write "while("
    operand test
    write ")"
    statement body
  | .doWhile, [test, body] =>
    write "do "
    statement body
    write "while ("
    operand test
    write ")"
  | .for, [start, test, step, body] => forParts start test step body
  | .forIn, [target, object, body] =>
    write "for("
    loopStart target
    write " in "
    operand object
    write ")"
    statement body
  | .forOf awaits, [target, sequence, body] =>
    write (if awaits then "for await (" else "for (")
    loopStart target
    write " of "
    operand sequence
    write ")"
    statement body
  | .variableDeclaration kind, all => declaration kind hi all
  | .declarator, [target, value] =>
    operand target
    if !value.1.isAbsent then
      write " = "
      operand value
  | .expression, [inner] =>
    operand inner
    write ";"
  | _, _ => return

def node (n : Node) (children : List Part) : Print Unit := do
  if n.isAbsent then return
  leading n.lo
  parts n.kind n.hi children

end Bundler.Script.Printer

namespace Bundler.Script

def Node.print (root : Node) (comments : Comments) : String :=
  let whole : Print Unit := root.fold fun n children =>
    match n.kind with
    | .script => do
      Print.leading n.lo
      children.forM Printer.statement
      Print.trailing n.hi true
    | _ => Printer.node n children
  ((whole.run { comments }).2).text

end Bundler.Script
