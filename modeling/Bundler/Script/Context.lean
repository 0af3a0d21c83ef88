/-!
What the surroundings of a piece of a script allow.
-/

namespace Bundler.Script

/-- The surroundings of the piece that is being read. -/
structure Context where
  strict : Bool := false
  /-- Whether `in` may be an operator: not so at the start of the head of a loop. -/
  allowIn : Bool := false
  inFunction : Bool := false
  inAsync : Bool := false
  inGenerator : Bool := false
  inParameters : Bool := false
  inClass : Bool := false
  inClassField : Bool := false
  inStaticBlock : Bool := false
  /-- Whether a function that is no arrow function encloses the piece. -/
  inPlainFunction : Bool := false
  allowSuper : Bool := false
  allowBreak : Bool := false
  allowContinue : Bool := false
  /-- Whether an `else` belongs to an outer statement. -/
  leaveElse : Bool := false
  inLoopHead : Bool := false
  inAwaitLoopHead : Bool := false
  deriving DecidableEq, Repr

namespace Context

/-- The words that only strict code reserves. -/
def strictWords : List String :=
  ["implements", "package", "protected", "interface", "private", "public"]

/-- The words that are reserved everywhere. -/
def plainWords : List String :=
  ["break", "case", "catch", "continue", "debugger", "default", "do", "export", "else", "finally",
    "for", "function", "if", "return", "switch", "throw", "try", "var", "const", "while", "with",
    "new", "this", "super", "class", "extends", "import", "in", "instanceof", "typeof", "void",
    "delete", "null", "true", "false", "enum"]

/-- Whether a word may not name a variable here. -/
def reserves (context : Context) (word : String) : Bool :=
  if word == "let" then context.strict
  else if word == "await" then context.inAsync || context.inStaticBlock || context.strict
  else if word == "yield" then context.inGenerator || context.strict
  else plainWords.contains word || (context.strict && strictWords.contains word)

/-- Whether a word may not stand alone in an object. -/
def reservesShorthand (context : Context) (word : String) : Bool :=
  if word == "let" then context.strict
  else if word == "await" then context.inAsync || context.inStaticBlock
  else if word == "yield" then context.inGenerator || context.strict
  else plainWords.contains word || (context.strict && strictWords.contains word)

end Context

end Bundler.Script
