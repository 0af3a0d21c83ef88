import Bundler.Script.Parse.Function

/-!
Expressions. Parentheses, and what stands before an arrow, are read as expressions first and turned
into patterns when the arrow comes.
-/

namespace Bundler.Script.Parse

/-- An expression with commas. -/
def expression (g : Grammar) : Parse Node := do
  let first ← g.assignment
  if !(← isAtMark .comma) then return first
  let others ← loop [] fun found => do
    if ← eatMark .comma then return .inl ((← g.assignment) :: found)
    return .inr found.reverse
  node .sequence first.lo (first :: others)

/-- An argument, or an element of an array: an expression, maybe behind `...`. -/
def argument (g : Grammar) : Parse Node := do
  let lo ← position
  if ← eatMark .ellipsis then
    let inner ← allowingIn g.assignment
    node .spread lo [inner]
  else g.assignment

/-- The arguments between parentheses. -/
def arguments (g : Grammar) (isImport : Bool) : Parse (List Node) := do
  let start ← position
  expect .openParen
  let found ← loop [] fun (found : List Node) => do
    if (← isAtEnd) || (← isAtMark .closeParen) then return .inr found.reverse
    if !found.isEmpty then
      expect .comma
      if ← isAtMark .closeParen then
        if isImport then failAt start .importTrailingComma
        return .inr found.reverse
    return .inl ((← allowingIn (argument g)) :: found)
  expect .closeParen
  return found

/-! ### Literals -/

def arrayLiteral (g : Grammar) : Parse Node := do
  let lo ← position
  advance
  let elements ← itemsUntil .closeBracket do
    if ← eatMark .comma then return .none
    let one ← allowingIn (argument g)
    if !(← isAtMark .closeBracket) then
      expect .comma
      if ← isAtMark .closeBracket then
        let comma ← lastStart
        modify fun reader => { reader with commas := (lo, comma) :: reader.commas }
    return one
  expect .closeBracket
  node .array lo elements

/-- Reads the piece of a template that starts behind the last token. -/
def readPiece (start : Nat) : Parse Unit := do
  let reader ← get
  if reader.current.isNone && reader.next.isNone && !reader.cursor.rest.isEmpty then
    let (token, after) := Scanner.template start reader.cursor
    let (reader, lexeme) := Reader.record { reader with cursor := after } token reader.cursor.offset
    set { reader with current := some lexeme }

def piece (tagged : Bool) (start : Nat) : Parse String := do
  readPiece start
  match ← require with
  | .template raw flaw =>
    advance
    match flaw with
    | some e => if tagged then return raw else throw e
    | none => return raw
  | _ => unexpected "template token"

/-- The pieces of a template and the expressions between them. -/
def template (g : Grammar) (tagged : Bool) : Parse (List String × List Node) := do
  let start ← position
  advance
  let first ← piece tagged start
  let result ← loop ([first], []) fun (pieces, found) => do
    let reader ← get
    if reader.current.isNone && reader.cursor.rest.take 2 = ['$', '{'] then
      let (reader, lexeme) := Reader.record { reader with cursor := reader.cursor.drop 2 }
        (.mark .dollarBrace) reader.cursor.offset
      set { reader with current := some lexeme }
    if ← isAtMark .backquote then return .inr (pieces.reverse, found.reverse)
    expect .dollarBrace
    let one ← allowingIn (expression g)
    expect .closeBrace
    return .inl ((← piece tagged start) :: pieces, one :: found)
  expect .backquote
  return result

def regexLiteral (lo : Nat) : Parse Node := do
  let reader ← get
  match Scanner.regex reader.cursor with
  | none =>
    let error : SyntaxError := ⟨lo, .openRegex⟩
    let length := (reader.cursor.rest.takeWhile (!Text.isLineTerminator ·)).length
    let (reader, lexeme) := Reader.record { reader with cursor := reader.cursor.drop length }
      (.failed error) lo
    set { reader with current := some lexeme }
    throw error
  | some (pattern, flags, after) =>
    let (reader, _) := Reader.record { reader with cursor := after } (.string pattern pattern) lo
    set { reader with previousLo := lo, previousHi := after.offset }
    let known := flags.toList.all ("dgimsuvy".toList.contains ·)
    let repeated := flags.toList.find? fun flag => decide (flags.toList.count flag > 1)
    if !known then noteAt lo .unknownRegexFlags
    match repeated with
    | some flag => noteAt lo (.repeatedRegexFlag flag)
    | none => pure ()
    node (.regex pattern flags) lo []

/-! ### Arrow functions and parentheses -/

/-- The items between parentheses as the parameters of an arrow function. -/
def parametersOf (g : Grammar) (comma : Option Nat) : List Node → Parse (List Node)
  | [] => return []
  | [last] =>
    match last.kind, last.children with
    | .spread, [inner] => do
      if inner.kind = .assign .plain then noteAt last.lo .restInitializer
      match comma with
      | some offset => noteAt offset .commaAfterRest
      | none => pure ()
      let pattern ← g.pattern .binding inner
      return [.mk .rest inner.lo inner.hi [pattern]]
    | _, _ => return [← g.pattern .binding last]
  | item :: rest => do
    if item.kind = .spread then
      noteAt item.lo .lastRestParameter
      parametersOf g comma rest
    else
      let first ← g.pattern .binding item
      return first :: (← parametersOf g comma rest)

/-- The items between parentheses, and the comma behind the last one. -/
def parenItems (g : Grammar) : Parse (List Node × Option Nat) := do
  expect .openParen
  let result ← loop ([], none) fun ((found, comma) : List Node × Option Nat) => do
    if (← isAtEnd) || (← isAtMark .closeParen) then return .inr (found.reverse, comma)
    let lo ← position
    modify fun reader => { reader with arrowStart := some lo }
    let one ← allowingIn (argument g)
    let mut found := one :: found
    if ← eatMark .arrow then
      match found with
      | [only] =>
        match only.kind with
        | .name _ =>
          let body ← arrowBody g false true
          found := (← node (.arrow false) lo [only, body]) :: found
        | _ => pure ()
      | _ => pure ()
    if !(← isAtMark .closeParen) then
      expect .comma
      if ← isAtMark .closeParen then return .inl (found, some (← lastStart))
    return .inl (found, comma)
  expect .closeParen
  return result

/-- Complains about `{a = 1}` where no pattern came of it. -/
def checkShorthands (items : List Node) : Parse Unit :=
  items.forM fun item =>
    if item.kind = .object then
      item.children.forM fun property => do
        match property.kind, property.children with
        | .shorthand, [_, value] => if !value.isAbsent then noteAt property.lo .assignmentProperty
        | _, _ => return
    else return

/-- What follows an arrow function with a block that goes on as if it were an operand. -/
def afterArrow (g : Grammar) (arrow : Node) : Parse Node := do
  if arrow.children.getLast?.any (·.kind = .block) then
    match ← soft? with
    | some (.binary _) =>
      noteHere .semicolonExpected
      let whole ← g.operators arrow 0
      if !(← isAtSemicolon) then noteHere .semicolonExpected
      return whole
    | _ => return arrow
  else return arrow

/-- An expression in parentheses or an arrow function; `async` is the place of that word before it. -/
def parens (g : Grammar) (canBeArrow : Bool) (async : Option Node) : Parse Node := do
  let lo ← match async with
    | some word => pure word.lo
    | none => position
  let (items, comma) ← allowingIn (parenItems g)
  if ← isAtMark .arrow then
    if ← newlineBefore then failAt lo .arrowNewline
    if !canBeArrow then failAt lo .arrowNotAllowed
    expect .arrow
    let found ← parametersOf g comma items
    let body ← arrowBody g async.isSome (isSimple found)
    let arrow ← node (.arrow async.isSome) lo (found ++ [body])
    return ← afterArrow g arrow
  checkShorthands items
  match async with
  | some word => node .call lo (word :: items)
  | none =>
    match items with
    | [] => failAt lo .emptyParens
    | [one] =>
      match one.kind, one.children with
      | .spread, [inner] => failAt inner.lo .spreadInParens
      | _, _ => node .parens lo [one]
    | first :: _ =>
      match items.find? (·.kind = .spread) with
      | some spread => failAt ((spread.children.head?.getD spread).lo) .spreadInParens
      | none =>
        let last := items.getLast?.getD first
        node .parens lo [.mk .sequence first.lo last.hi items]

/-- What a name starts: itself, or an arrow function without parentheses around its parameter. -/
def nameOrArrow (g : Grammar) (lo : Nat) (canBeArrow : Bool) : Parse Node := do
  let name ← reference
  if !canBeArrow then return name
  let newline ← newlineBefore
  if name.kind = .name "async" && !newline then
    if ← isAtMark .openParen then return ← parens g canBeArrow (some name)
    if ← isAtBindable then
      let context ← read
      if context.inLoopHead && (← isAtName "of") then
        if !(← isNextMark .arrow) then
          if !context.inAwaitLoopHead then noteAt (← lastStart) .asyncLoopTarget
          return name
      let parameter ← bindingName
      expect .arrow
      let body ← arrowBody g true true
      return ← node (.arrow true) lo [parameter, body]
  if newline then return name
  if ← eatMark .arrow then
    let body ← arrowBody g false true
    return ← node (.arrow false) lo [name, body]
  return name

/-! ### Operands -/

/-- The complaint where no expression starts. -/
def noExpression : Parse Node := do
  let _ ← current
  failHere .expressionExpected

/-- An operand without what may follow it. -/
def primary (g : Grammar) : Parse Node := do
  let lo ← position
  let canBeArrow := (← get).arrowStart = some lo
  match (← token?).getD .hashbang with
  | .mark .openBracket => arrayLiteral g
  | .mark .openBrace => objectLiteral g
  | .mark .openParen => parens g canBeArrow none
  | .mark .backquote =>
    let (pieces, found) ← template g false
    node (.template pieces) lo found
  | .mark .hash =>
    advance
    match (← word).kind with
    | .name name => node (.privateName name) lo []
    | _ => noExpression
  | .string value raw =>
    advance
    node (.string value (some raw)) lo []
  | .number raw value =>
    advance
    node (.number raw (value = .infinite)) lo []
  | .bigint raw =>
    advance
    node (.bigint raw) lo []
  | .binary .divide =>
    advance
    modify fun reader => { reader with cursor := ⟨'/' :: reader.cursor.rest, lo⟩ }
    regexLiteral lo
  | .assign (.compound .divide) =>
    advance
    modify fun reader => { reader with cursor := ⟨'/' :: '=' :: reader.cursor.rest, lo⟩ }
    regexLiteral lo
  | .keyword .thisWord =>
    advance
    node .this lo []
  | .keyword .nullWord =>
    advance
    node .null lo []
  | .keyword .trueWord =>
    advance
    node (.boolean true) lo []
  | .keyword .falseWord =>
    advance
    node (.boolean false) lo []
  | .keyword .functionWord => functionFrom g lo false false
  | .keyword .classWord => classFrom g false
  | .keyword .letWord => nameOrArrow g lo canBeArrow
  | .ident name =>
    if name == "async" then
      if (← next?).any (·.token == .keyword .functionWord) && !(← newlineBeforeNext) then
        return ← asyncFunction g false
    if ← isAtBindable then nameOrArrow g lo canBeArrow else noExpression
  | .keyword _ => if ← isAtBindable then nameOrArrow g lo canBeArrow else noExpression
  | _ => noExpression

/-- Whether an operand is a link of an optional chain. -/
def isChain (n : Node) : Bool :=
  match n.kind with
  | .chainMember _ => true
  | .chainCall _ => true
  | _ => false

/-- A property behind an object. -/
def propertyOf (object property : Node) (optional : Bool) : Parse Node := do
  match object.kind with
  | .super => do
    if !(← read).allowSuper || optional then failHere .invalidSuper
    match property.kind with
    | .privateName _ => failHere .invalidSuperCall
    | _ => node .member object.lo [object, property]
  | .importWord => do
    noteAt object.lo .importMeta
    if property.kind = .name "meta" then node .invalid object.lo [] else unexpected "meta"
  | _ =>
    if isChain object || optional then node (.chainMember optional) object.lo [object, property]
    else node .member object.lo [object, property]

/-- One more link behind an operand, if there is one. -/
def subscript (g : Grammar) (calls : Bool) (object : Node) : Parse (Node ⊕ Node) := do
  match ← token? with
  | some (.failed e) =>
    advance
    throw e
  | _ => pure ()
  let optional ← isAtMark .question <&&> isNextMark .dot
  if optional then advance
  if ← pure optional <&&> isNextMark .openBracket then advance
  if ← isAtMark .openBracket then
    let bracket ← position
    advance
    let inner ← allowingIn (expression g)
    expect .closeBracket
    let property ← node .computed bracket [inner]
    return .inl (← propertyOf object property optional)
  let optionalCall ← pure optional <&&> isNextMark .openParen
  if optionalCall then advance
  if optionalCall || (calls && (← isAtMark .openParen)) then
    let found ← arguments g (object.kind = .importWord)
    if optional || isChain object then
      if object.kind = .super || object.kind = .importWord then failHere .optionalSuper
      return .inl (← node (.chainCall optional) object.lo (object :: found))
    return .inl (← node .call object.lo (object :: found))
  if ← eatMark .dot then
    let property ← if ← isAtMark .hash then privateName else word
    return .inl (← propertyOf object property optional)
  match object.kind with
  | .super => failHere (if calls then .invalidSuper else .invalidSuperCall)
  | .importWord => failHere .invalidImport
  | _ =>
    if ← isAtMark .backquote then
      let (pieces, found) ← template g true
      if isChain object then noteAt object.lo .optionalTemplate
      return .inl (← node (.taggedTemplate pieces) object.lo (object :: found))
    return .inr object

/-- All links behind an operand. -/
def subscripts (g : Grammar) (calls : Bool) (object : Node) : Parse Node :=
  loop object (subscript g calls)

def isArrow (n : Node) : Bool :=
  match n.kind with
  | .arrow _ => true
  | _ => false

/-- Whether `new` may not be used on an operand, since it is or follows an optional chain. -/
def chainUnderNew? (callee : Node) : Option Nat :=
  if isChain callee then some callee.lo
  else match callee.kind, callee.children with
    | .member, object :: _ => if isChain object then some object.lo else none
    | _, _ => none

def newExpression (g : Grammar) : Parse Node := do
  let lo ← position
  if ← eatWord .newWord then
    if ← eatMark .dot then
      if !(← eat (.ident "target")) then return ← unexpected "target"
      let found ← node .newTarget lo []
      let context ← read
      if !context.inPlainFunction && !context.inParameters && !context.inClass then noteAt lo .newTarget
      return ← subscripts g false found
    let callee ← g.newExpression
    if isArrow callee then return callee
    match chainUnderNew? callee with
    | some offset => failAt offset .optionalNew
    | none => pure ()
    if ← isAtMark .openParen then
      let found ← arguments g false
      return ← subscripts g false (← node (.new true) lo (callee :: found))
    return ← node (.new false) lo [callee]
  if ← eatWord .superWord then return ← subscripts g false (← node .super lo [])
  if ← eatWord .importWord then return ← subscripts g false (← node .importWord lo [])
  let found ← primary g
  if isArrow found then return found
  subscripts g false found

/-- An operand that something can be stored into, or that is called. -/
def leftHand (g : Grammar) : Parse Node := do
  let lo ← position
  if ← eatWord .superWord then return ← subscripts g true (← node .super lo [])
  if ← eatWord .importWord then return ← subscripts g true (← node .importWord lo [])
  let callee ← newExpression g
  if isArrow callee || callee.kind = .new false then return callee
  if ← isAtMark .openParen then
    let found ← arguments g false
    let kind := if isChain callee then .chainCall false else .call
    return ← subscripts g true (← node kind lo (callee :: found))
  return callee

/-! ### Operators -/

/-- What follows the word `await` at `lo`. Outside of asynchronous functions `await` may be a name. -/
def awaitOperand (g : Grammar) (statement : Bool) (lo : Nat) : Parse Node := do
  if ← isAt (.binary .times) then failHere .awaitStar
  let context ← read
  let here ← place
  if !context.inAsync then
    if (← isAtMark .closeParen) || (← isAtMark .closeBracket) || (← isAtMark .comma)
        || (← isAtSemicolon) then
      return .mk (.name "await") here here []
    if context.inFunction then noteHere .awaitOutside
    else if !statement then noteAt lo .awaitInScript
  if context.inParameters && !context.inFunction then noteAt here .awaitParameter
  let inner ← g.unary
  node .await lo [inner]

def awaitExpression (g : Grammar) (statement : Bool) : Parse Node := do
  let lo ← position
  advance
  awaitOperand g statement lo

def unaryOp? : Token → Option UnaryOp
  | .keyword .deleteWord => some .delete
  | .keyword .voidWord => some .void
  | .keyword .typeofWord => some .typeOf
  | .binary .plus => some .plus
  | .binary .minus => some .minus
  | .mark .tilde => some .bitNot
  | .mark .bang => some .not
  | _ => none

def updateOp? : Token → Option UpdateOp
  | .mark .increment => some .increment
  | .mark .decrement => some .decrement
  | _ => none

/-- An operand with the operators before it and `++` or `--` behind it. -/
def unary (g : Grammar) : Parse Node := do
  let lo ← position
  let token ← token?
  match token.bind updateOp? with
  | some op =>
    advance
    let inner ← g.unary
    checkReference inner
    return .mk (.update op true) lo inner.hi [inner]
  | none =>
  match token.bind unaryOp? with
  | some op =>
    advance
    let start ← position
    match ← attempt g.unary with
    | .ok inner => return .mk (.unary op) lo inner.hi [inner]
    | .error e =>
      note e
      return .mk (.unary op) lo start [.mk .invalid start start []]
  | none =>
  if ← isAtWord .awaitWord then return ← awaitExpression g false
  let found ← leftHand g
  if isArrow found then return found
  if ← newlineBefore then return found
  match (← token?).bind updateOp? with
  | some op =>
    checkReference found
    advance
    node (.update op false) found.lo [found]
  | none => return found

/-- The operator of two operands that stands here. -/
def binaryOp? : Parse (Option BinaryOp) := do
  let context ← read
  match ← soft? with
  | some (.binary op) => return some op
  | some (.keyword .inWord) => return if context.allowIn then some .isIn else none
  | some (.keyword .instanceofWord) => return some .instanceOf
  | _ => return none

/-- The offset of an expression whose operator is `&&` or `||`. -/
def logicalAt? (n : Node) : Option Nat :=
  match n.kind with
  | .binary op => if op.isLogical then some n.lo else none
  | _ => none

/-- Complains about `??` beside `&&` or `||`. -/
def checkMixing (whole : Node) : Parse Unit := do
  match whole.kind, whole.children with
  | .binary .nullish, [left, right] =>
    match logicalAt? left with
    | some offset => noteAt offset .nullishMixing
    | none => pure ()
    match logicalAt? right with
    | some offset => noteAt offset .nullishMixing
    | none => pure ()
  | .binary op, [left, _] =>
    if op.isLogical && left.kind = .binary .nullish then noteAt whole.lo .nullishMixing
  | _, _ => return

/-- The operators behind an operand, as far as they bind tighter than `precedence`. -/
def operators (g : Grammar) (left : Node) (precedence : Nat) : Parse Node :=
  loop left fun left => do
    match ← binaryOp? with
    | none => return .inr left
    | some op =>
      if op.precedence ≤ precedence then return .inr left
      advance
      let isUnary := match left.kind with
        | .unary _ => true
        | .await => true
        | _ => false
      if isUnary && op = .power then failHere .unaryPower
      let operand ← g.unary
      let right ← g.operators operand (if op = .power then op.precedence - 1 else op.precedence)
      let whole : Node := .mk (.binary op) left.lo right.hi [left, right]
      checkMixing whole
      return .inl whole

/-- Operands with operators between them. Where the first operand is missing, an operator is
complained about and the reading goes on. -/
def operation (g : Grammar) : Parse Node := do
  let context ← read
  let left ← do
    match ← attempt (unary g) with
    | .ok left => pure left
    | .error e =>
      let broken ← match ← require with
        | .binary _ => pure true
        | .keyword .inWord => pure context.allowIn
        | .keyword .instanceofWord => pure true
        | _ => pure false
      if !broken then throw e
      let here ← place
      noteHere .expressionExpected
      pure (.mk .invalid here here [])
  if isArrow left then return left
  g.operators left 0

def conditional (g : Grammar) : Parse Node := do
  let lo ← position
  let test ← operation g
  if isArrow test then return test
  if ← eatMark .question then
    let yes ← allowingIn g.assignment
    expect .colon
    let no ← g.assignment
    return .mk .conditional lo no.hi [test, yes, no]
  return test

/-- The node that an assignment stores into. -/
def assignmentTarget (g : Grammar) (op : AssignOp) (left : Node) : Parse Node := do
  if op = .plain then
    let target ← g.pattern .target left
    match target.kind with
    | .name _ | .member | .chainMember _ | .chainCall _ | .parens | .arrayPattern | .objectPattern
    | .invalid => return target
    | _ => failAt target.lo .invalidTarget
  else
    if !left.isReference (← read).strict then noteAt left.lo .notAssignable
    match left.kind with
    | .name _ | .member | .chainMember _ | .chainCall _ | .parens => return left
    | _ => failAt left.lo .invalidTarget

def yieldExpression (g : Grammar) : Parse Node := do
  let lo ← position
  advance
  let context ← read
  if context.inParameters && !context.inFunction then failAt (← lastStart) .yieldParameter
  let argumentFollows ← do
    if ← isAtSemicolon then pure false
    else if (← isAt (.binary .times)) || (← isAt (.binary .divide))
        || (← isAt (.assign (.compound .divide))) then pure true
    else pure (((← soft?).map Token.startsExpression).getD true)
  if argumentFollows then
    let delegate ← eat (.binary .times)
    let inner ← g.assignment
    node (.yield delegate) lo [inner]
  else node (.yield false) lo [.none]

def assignment (g : Grammar) : Parse Node := do
  if (← read).inGenerator && (← isAtWord .yieldWord) then return ← yieldExpression g
  let arrowStart ← match ← require with
    | .ident _ => pure (some (← position))
    | .mark .openParen => pure (some (← position))
    | .keyword .yieldWord => pure (some (← position))
    | _ => pure none
  modify fun reader => { reader with arrowStart }
  let lo ← position
  let left ← conditional g
  match left.kind with
  | .arrow _ | .conditional | .binary _ | .unary _ | .update .. => return left
  | _ =>
    match ← soft? with
    | some (.assign op) =>
      let target ← assignmentTarget g op left
      advance
      let value ← g.assignment
      node (.assign op) lo [target, value]
    | _ => return left

end Bundler.Script.Parse
