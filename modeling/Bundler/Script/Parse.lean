import Bundler.Script.Parse.Statement

/-!
Parsing a whole script. `parse` gives its tree and its comments, or the first complaint: the one that
stopped the parser, or else the earliest of those that were noted.
-/

namespace Bundler.Script

namespace Grammar

/-- One more level of the grammar on top of `g`. -/
def step (g : Grammar) : Grammar where
  statement := Parse.statement g
  ifStatement := Parse.ifStatement g
  assignment := Parse.assignment g
  unary := Parse.unary g
  operators := Parse.operators g
  leftHand := Parse.leftHand g
  newExpression := Parse.newExpression g
  bindingPattern := Parse.bindingPattern g
  pattern := Parse.patternOf g

/-- The grammar with as many more levels. -/
def raise : Nat → Grammar → Grammar
  | 0, g => g
  | levels + 1, g => raise levels g.step

end Grammar

/-- A parsed script: what its first line says behind `#!`, its statements, and the comments between its
tokens. -/
structure Parsed where
  interpreter : Option String
  root : Node
  comments : Comments

/-- What the first line names as an interpreter, and the reader behind it. -/
def skipInterpreter (reader : Reader) : Option String × Reader :=
  if reader.cursor.startsWith "#!" then
    let (line, cursor) := reader.cursor.span (!Text.isLineTerminator ·)
    (some (String.ofList (line.drop 2)), { reader with cursor, previousHi := cursor.offset, lastEnd := cursor.offset })
  else (none, reader)

/-- A whole script. -/
def script (g : Grammar) : Parse Node := do
  let lo := (← get).cursor.offset
  let lo ← if lo = 0 then Parse.position else pure 0
  let found ← Parse.statements g true true false
  Parse.node .script lo found

/-- The tree of a source, or what is wrong with it. -/
def parse (source : String) : Except SyntaxError Parsed :=
  let (interpreter, reader) := skipInterpreter (.start source)
  let grammar := Grammar.raise (4 * reader.limit) .exhausted
  let (result, reader) := ((script grammar).run {}).run.run reader
  match result, reader.problems.getLast? with
  | .error e, _ => .error e
  | .ok _, some e => .error e
  | .ok root, none => .ok ⟨interpreter, root, reader.comments⟩

end Bundler.Script
