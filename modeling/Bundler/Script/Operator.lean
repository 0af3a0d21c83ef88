/-!
The operators of scripts and how tightly they bind.
-/

namespace Bundler.Script

/-- Operators between two operands. -/
inductive BinaryOp where
  | equal | notEqual | same | notSame
  | less | lessEqual | greater | greaterEqual
  | shiftLeft | shiftRight | shiftRightZero
  | plus | minus | times | divide | remainder | power
  | bitOr | bitXor | bitAnd | or | and | nullish
  | isIn | instanceOf
  deriving DecidableEq, Repr

namespace BinaryOp

def text : BinaryOp → String
  | equal => "==" | notEqual => "!=" | same => "===" | notSame => "!=="
  | less => "<" | lessEqual => "<=" | greater => ">" | greaterEqual => ">="
  | shiftLeft => "<<" | shiftRight => ">>" | shiftRightZero => ">>>"
  | plus => "+" | minus => "-" | times => "*" | divide => "/" | remainder => "%" | power => "**"
  | bitOr => "|" | bitXor => "^" | bitAnd => "&" | or => "||" | and => "&&" | nullish => "??"
  | isIn => "in" | instanceOf => "instanceof"

/-- A higher number binds tighter. -/
def precedence : BinaryOp → Nat
  | nullish | or => 1
  | and => 2
  | bitOr => 3
  | bitXor => 4
  | bitAnd => 5
  | equal | notEqual | same | notSame => 6
  | less | lessEqual | greater | greaterEqual | isIn | instanceOf => 7
  | shiftLeft | shiftRight | shiftRightZero => 8
  | plus | minus => 9
  | times | divide | remainder => 10
  | power => 11

/-- Whether the operator is `&&` or `||`, which may not stand beside `??` without parentheses. -/
def isLogical : BinaryOp → Bool
  | or | and => true
  | _ => false

/-- Whether the operator is spelled as a word. -/
def isWord : BinaryOp → Bool
  | isIn | instanceOf => true
  | _ => false

end BinaryOp

/-- Operators that store into their left operand: `=`, and an operator with `=` behind it. -/
inductive AssignOp where
  | plain
  | compound (op : BinaryOp)
  deriving DecidableEq, Repr

namespace AssignOp

def text : AssignOp → String
  | plain => "="
  | compound op => op.text ++ "="

end AssignOp

/-- Operators before one operand. -/
inductive UnaryOp where
  | minus | plus | not | bitNot | typeOf | void | delete
  deriving DecidableEq, Repr

namespace UnaryOp

def text : UnaryOp → String
  | minus => "-" | plus => "+" | not => "!" | bitNot => "~" | typeOf => "typeof" | void => "void"
  | delete => "delete"

/-- Whether the operator is spelled as a word. -/
def isWord : UnaryOp → Bool
  | typeOf | void | delete => true
  | _ => false

end UnaryOp

/-- Operators that change a variable by one. -/
inductive UpdateOp where
  | increment | decrement
  deriving DecidableEq, Repr

namespace UpdateOp

def text : UpdateOp → String
  | increment => "++" | decrement => "--"

end UpdateOp

/-- The keyword that starts a variable declaration. -/
inductive VariableKind where
  | var | let | const
  deriving DecidableEq, Repr

namespace VariableKind

def text : VariableKind → String
  | var => "var" | VariableKind.let => "let" | const => "const"

end VariableKind

end Bundler.Script
