import Bundler.Script.Operator

/-!
The syntax tree of a script. Every node has a kind, the offsets of its ends and its children; an
optional child that is not there is a node of the kind `absent`. The children of a node are visited
in the order in which they are listed, which is the order of the text but for two kinds: the test of
a `doWhile` comes before its body, and the superclass of a class comes after its members.
-/

namespace Bundler.Script

inductive MethodKind where
  | plain | getter | setter
  deriving DecidableEq, Repr

/-- The kind of a node; a comment lists the children where the name leaves their order open. -/
inductive Kind where
  /-- An optional child that is not there. -/
  | absent
  /-- A part of the source that was wrong. -/
  | invalid
  | script
  /- Names and literals, without children. -/
  | name (text : String)
  | privateName (text : String)
  | string (value : String) (raw : Option String)
  | number (raw : String) (infinite : Bool)
  | bigint (raw : String)
  | regex (pattern flags : String)
  | boolean (value : Bool)
  | null
  | this
  | super
  /-- The word `import` as the callee of a call. -/
  | importWord
  | newTarget
  /-- Elements; `absent` for a hole. -/
  | array
  | object
  /-- The expression behind `...`. -/
  | spread
  /-- The expressions between the pieces. -/
  | template (pieces : List String)
  /-- The tag, then the expressions between the pieces. -/
  | taggedTemplate (pieces : List String)
  | parens
  /-- At least two expressions. -/
  | sequence
  | unary (op : UnaryOp)
  | update (op : UpdateOp) (before : Bool)
  | binary (op : BinaryOp)
  | assign (op : AssignOp)
  | conditional
  /-- The callee and the arguments. -/
  | call
  | new (hasArguments : Bool)
  /-- The object and the property: a name, a private name or `computed`. -/
  | member
  /-- The object and the property, as a link of an optional chain. -/
  | chainMember (optional : Bool)
  /-- The callee and the arguments, as a link of an optional chain. -/
  | chainCall (optional : Bool)
  /-- The expression in brackets. -/
  | computed
  /-- The parameters, then the body: a block or an expression. -/
  | arrow (async : Bool)
  /-- The name or `absent`, the parameters, the body. -/
  | function (async generator : Bool)
  /-- The name, the parameters, the body. -/
  | functionDeclaration (async generator : Bool)
  /-- The name or `absent`, the members, then the superclass or `absent`. -/
  | classExpression
  /-- The name, the members, then the superclass or `absent`. -/
  | classDeclaration
  /-- The value or `absent`. -/
  | yield (delegate : Bool)
  | await
  /- Patterns. -/
  | arrayPattern
  /-- Properties: `property`, `shorthand` and `rest`. -/
  | objectPattern
  | rest
  /-- The pattern and its default. -/
  | defaulted
  /- Properties of objects and object patterns. -/
  | property
  /-- The name, and its default or `absent`. -/
  | shorthand
  /-- The key, the parameters, the body. -/
  | method (kind : MethodKind) (async generator : Bool)
  /- Members of classes. -/
  | constructor
  | classMethod (static : Bool) (kind : MethodKind) (async generator : Bool)
  /-- The key, and the value or `absent`. -/
  | classField (static : Bool)
  | staticBlock
  /- Statements. -/
  | block
  | empty
  | debugger
  | with
  /-- The value or `absent`. -/
  | return
  | labelled
  /-- The label or `absent`. -/
  | break
  | continue
  /-- The test, the branch, and the other branch or `absent`. -/
  | if
  | switch
  /-- The test or `absent`, then the statements. -/
  | case
  | throw
  /-- The block, the handler or `absent`, the block behind `finally` or `absent`. -/
  | try
  /-- The parameter or `absent`, and the block. -/
  | catch
  | while
  /-- The test and the body, in this order. -/
  | doWhile
  /-- The start, the test and the step, each maybe `absent`, and the body. -/
  | for
  | forIn
  | forOf (await : Bool)
  | variableDeclaration (kind : VariableKind)
  /-- The target, and the start value or `absent`. -/
  | declarator
  | expression
  deriving DecidableEq, Repr, Inhabited

inductive Node where
  | mk (kind : Kind) (lo hi : Nat) (children : List Node)
  deriving Repr, Inhabited

namespace Node

def kind : Node → Kind
  | mk kind _ _ _ => kind

/-- The offset of the first character. -/
def lo : Node → Nat
  | mk _ lo _ _ => lo

/-- The offset behind the last character. -/
def hi : Node → Nat
  | mk _ _ hi _ => hi

def children : Node → List Node
  | mk _ _ _ children => children

def none : Node := mk .absent 0 0 []

def isAbsent (n : Node) : Bool := n.kind = .absent

/-- The children behind the given ones, the last one left out. -/
def middle : List Node → List Node
  | [] => []
  | [_] => []
  | n :: rest => n :: middle rest

mutual

/-- Folds a tree: `f` combines a node with its children and what they gave. -/
def fold {α : Type} (f : Node → List (Node × α) → α) : Node → α
  | mk kind lo hi children => f (mk kind lo hi children) (foldAll f children)

def foldAll {α : Type} (f : Node → List (Node × α) → α) : List Node → List (Node × α)
  | [] => []
  | n :: rest => (n, fold f n) :: foldAll f rest

end

end Node

end Bundler.Script
