import Bundler.Script.Parse.Expression

/-!
Statements.
-/

namespace Bundler.Script.Parse

/-- The surroundings of the body of a loop. -/
def loopContext (context : Context) : Context := { context with allowBreak := true, allowContinue := true }

def nested (g : Grammar) : Parse Node := g.statement false false

/-- An expression between parentheses, as loops and branches have it in their head. -/
def head (g : Grammar) : Parse Node := do
  expect .openParen
  let found ← allowingIn (expression g)
  expect .closeParen
  return found

/-! ### Properties with defaults -/

mutual

/-- The places of `{a = 1}` in an expression, functions left out. -/
def strayShorthands : Node → List Nat
  | .mk kind lo _ children =>
    match kind with
    | .function .. | .arrow _ => []
    | .objectPattern | .arrayPattern => strayInAll children
    | .object => strayInObject children
    | _ => (fun (_ : Nat) => strayInAll children) lo

def strayInAll : List Node → List Nat
  | [] => []
  | n :: rest => strayShorthands n ++ strayInAll rest

def strayInObject : List Node → List Nat
  | [] => []
  | .mk kind lo hi children :: rest =>
    (match kind with
      | .shorthand => if children.getLast?.all Node.isAbsent then [] else [lo]
      | _ => strayShorthands (.mk kind lo hi children)) ++ strayInObject rest

end

/-- Complains about `{a = 1}` in an expression that is no pattern. -/
def checkExpression (n : Node) : Parse Unit :=
  (strayShorthands n).forM fun offset => noteAt offset .assignmentProperty

/-! ### Jumps -/

/-- The label behind `break` or `continue`. -/
def jumpLabel : Parse Node := do
  if ← eatSemicolon then return .none
  let label ← reference
  expectSemicolon
  return label

/-- Whether a label is there that no enclosing statement has. -/
def unknownLabel (label : Node) : Parse Bool := do
  match label.kind with
  | .name text => return !(← get).labels.contains text
  | _ => return false

def breakStatement : Parse Node := do
  let lo ← position
  advance
  let label ← jumpLabel
  if ← unknownLabel label then noteAt lo .breakLabel
  else if !(← read).allowBreak then noteAt lo .breakOutside
  node .break lo [label]

def continueStatement : Parse Node := do
  let lo ← position
  advance
  let label ← jumpLabel
  if !(← read).allowContinue then noteAt lo .continueOutside
  else if ← unknownLabel label then noteAt lo .continueLabel
  node .continue lo [label]

def returnStatement (g : Grammar) : Parse Node := do
  let lo ← position
  advance
  let value ← if ← isAtSemicolon then pure .none else allowingIn (expression g)
  expectSemicolon
  if !(← read).inFunction then noteAt lo .returnOutside
  node .return lo [value]

def throwStatement (g : Grammar) : Parse Node := do
  let lo ← position
  advance
  if ← newlineBefore then failHere .newlineAfterThrow
  let value ← allowingIn (expression g)
  expectSemicolon
  node .throw lo [value]

/-! ### Declarations -/

def declarator (g : Grammar) (inLoop : Bool) : Parse Node := do
  let lo ← position
  let target ← g.bindingPattern
  if inLoop && ((← isAtWord .inWord) || (← isAtName "of")) then return ← node .declarator lo [target, .none]
  if ← eat (.assign .plain) then
    let value ← g.assignment
    checkExpression value
    return ← node .declarator lo [target, value]
  match target.kind with
  | .name _ => node .declarator lo [target, .none]
  | _ => failAt lo .uninitializedPattern

/-- Drops tokens up to the end of a broken declaration. -/
def dropStatement : Parse Unit :=
  loop () fun _ => do
    if ← eatSemicolon then return .inr ()
    advance
    match ← token? with
    | some (.failed _) => return .inr ()
    | _ => return .inl ()

/-- The declarators behind the word at `lo`. -/
def declarators (g : Grammar) (lo : Nat) (kind : VariableKind) (inLoop : Bool) : Parse (List Node) :=
  loop [] fun found => do
    if (← isAtMark .semicolon) || (← isAtEnd) then
      let start ← lastStart
      let behind ← lastEnd
      noteAt (if start = lo then behind else start) .trailingComma
      return .inr found.reverse
    let inside (context : Context) : Context :=
      if kind ≠ .var || !inLoop then { context with allowIn := true } else context
    let one ← within inside (declarator g inLoop)
    if ← eatMark .comma then return .inl (one :: found)
    return .inr (one :: found).reverse

/-- A declaration of variables, from its first word on. -/
def variableDeclaration (g : Grammar) (kind : VariableKind) (inLoop : Bool) : Parse Node := do
  let lo ← position
  advance
  let found ← declarators g lo kind inLoop
  let ended ← pure inLoop <||> eatSemicolon
  if !ended then
    noteHere .semicolonExpected
    let _ ← attempt (expression g)
    dropStatement
  node (.variableDeclaration kind) lo found

/-- Whether the current token, which is `let`, starts a declaration. -/
def letDeclares : Parse Bool := do
  let next ← next?
  return match next with
    | some ⟨.ident _, _, _, _⟩ => true
    | some ⟨.mark m, _, _, _⟩ => m = .openBrace || m = .openBracket
    | some ⟨.keyword word, _, _, _⟩ => word = .letWord || word = .yieldWord || word = .awaitWord
    | _ => false

/-- A declaration that starts with the word `using`, if the word declares here. It is read for its own
faults, and refused. -/
def usingDeclaration? (g : Grammar) (lo : Nat) : Parse (Option Node) := do
  let context ← read
  let binds := (← next?).any fun lexeme => !lexeme.newline && match lexeme.token with
    | .ident name => !context.reserves name
    | .keyword word => !context.reserves word.text
    | _ => false
  if !binds then return none
  advance
  let found ← declarators g lo .var false
  noteAt lo .usingNotEnabled
  return some (← node .invalid lo found)

/-- The kind of declaration of variables that starts here. -/
def variableKind? : Parse (Option VariableKind) := do
  match ← token? with
  | some (.keyword .varWord) => return some .var
  | some (.keyword .constWord) => return some .const
  | some (.keyword .letWord) => return if ← letDeclares then some .let else none
  | _ => return none

/-! ### Branches -/

/-- A statement that starts with `if`. The branches of a chain of `else if` are read one after another. -/
def ifStatement (g : Grammar) : Parse Node := do
  let lo ← position
  advance
  let apart (context : Context) : Context := { context with leaveElse := false }
  expect .openParen
  let test ← within apart (allowingIn (expression g))
  expect .closeParen
  let yes ← within apart (nested g)
  if (← read).leaveElse then return ← node .if lo [test, yes, .none]
  let (chain, last) ← loop [] fun (chain : List Node) => do
    if !(← eatWord .elseWord) then return .inr (chain, Node.none)
    if !(← isAtWord .ifWord) then return .inr (chain, ← within apart (nested g))
    let one ← within (fun context => { context with leaveElse := true }) g.ifStatement
    return .inl (one :: chain)
  let no := chain.foldl (fun (rest : Node) (one : Node) =>
    .mk one.kind one.lo one.hi (one.children.dropLast ++ [rest])) last
  node .if lo [test, yes, no]

/-- A case of a `switch`, and whether it is the default. -/
def switchCase (g : Grammar) (defaulted : Bool) : Parse (Node × Bool) := do
  let lo ← position
  let isDefault ← isAtWord .defaultWord
  advance
  if isDefault && defaulted then failHere .repeatedDefault
  let test ← if isDefault then pure .none else allowingIn (expression g)
  expect .colon
  let body ← loop [] fun found => do
    if (← isAtEnd) || (← isAtWord .caseWord) || (← isAtWord .defaultWord) || (← isAtMark .closeBrace) then
      return .inr found.reverse
    return .inl ((← g.statement true false) :: found)
  return (← node .case lo (test :: body), isDefault)

def switchStatement (g : Grammar) : Parse Node := do
  let lo ← position
  advance
  let value ← head g
  expect .openBrace
  let cases ← within (fun context => { context with allowBreak := true }) do
    loop ([], false) fun (found, defaulted) => do
      if !((← isAtWord .caseWord) || (← isAtWord .defaultWord)) then return .inr found.reverse
      let (one, isDefault) ← switchCase g defaulted
      return .inl (one :: found, defaulted || isDefault)
  expect .closeBrace
  node .switch lo (value :: cases)

/-! ### Handlers -/

def catchClause (g : Grammar) : Parse Node := do
  let lo ← position
  if !(← eatWord .catchWord) then return .none
  let target ← if ← eatMark .openParen then do
      let target ← g.bindingPattern
      expect .closeParen
      pure target
    else pure .none
  let body ← block g false
  node .catch lo [target, body]

def finallyBlock (g : Grammar) : Parse Node := do
  if ← eatWord .finallyWord then block g false else return .none

def tryStatement (g : Grammar) : Parse Node := do
  let lo ← position
  advance
  let body ← block g false
  let behind ← position
  let handler ← catchClause g
  let finalizer ← finallyBlock g
  if handler.isAbsent && finalizer.isAbsent then noteAt behind .semicolonExpected
  node .try lo [body, handler, finalizer]

/-- Handlers without a `try`, which are dropped. -/
def strayHandlers (g : Grammar) : Parse Node := do
  let lo ← position
  noteHere .semicolonExpected
  let _ ← attempt (catchClause g)
  let _ ← attempt (finallyBlock g)
  return .mk .invalid lo lo []

/-! ### Loops -/

def whileStatement (g : Grammar) : Parse Node := do
  let lo ← position
  advance
  let test ← head g
  let body ← within loopContext (nested g)
  node .while lo [test, body]

def doStatement (g : Grammar) : Parse Node := do
  let lo ← position
  advance
  let body ← within loopContext (nested g)
  expectWord .whileWord
  let test ← head g
  let _ ← eatSemicolon
  node .doWhile lo [test, body]

/-- The head of a loop: how it starts, what it runs over or tests, and its step. -/
inductive LoopHead where
  | steps (start test step : Node)
  | over (target object : Node)
  | through (target sequence : Node)

/-- A loop head behind its first semicolon. -/
def stepsHead (g : Grammar) (start : Node) : Parse LoopHead := do
  let test ← if ← eatMark .semicolon then pure Node.none else do
    let test ← allowingIn (expression g)
    expect .semicolon
    pure test
  let step ← if ← isAtMark .closeParen then pure Node.none else allowingIn (expression g)
  return .steps start test step

/-- A loop head from `in` or `of` on. -/
def overHead (g : Grammar) (target : Node) : Parse LoopHead := do
  let isIn ← isAtWord .inWord
  advance
  if isIn then return .over target (← allowingIn (expression g))
  return .through target (← allowingIn g.assignment)

/-- Complains about a declaration in the head of a loop over something. -/
def checkLoopVariables (declaration : Node) (isOf : Bool) : Parse Unit := do
  match declaration.children with
  | [one] =>
    if ((← read).strict || isOf) && !(one.children.getLast?.all Node.isAbsent) then
      noteAt one.lo .initializerInLoop
  | _ :: others => others.forM fun one => noteAt one.lo .oneVariable
  | [] => return

def loopHead (g : Grammar) (awaits : Bool) : Parse LoopHead := do
  match ← variableKind? with
  | some kind =>
    let declaration ← variableDeclaration g kind true
    let isOf ← isAtName "of"
    if isOf || (← isAtWord .inWord) then
      checkLoopVariables declaration isOf
      return ← overHead g declaration
    expect .semicolon
    stepsHead g declaration
  | none =>
    if ← eatMark .semicolon then return ← stepsHead g .none
    let inside (context : Context) : Context :=
      { context with allowIn := false, inLoopHead := true, inAwaitLoopHead := awaits }
    let start ← within inside (expression g)
    if (← isAtName "of") || (← isAtWord .inWord) then
      let target ← g.pattern .target start
      return ← overHead g target
    expect .semicolon
    checkExpression start
    stepsHead g start

def forStatement (g : Grammar) : Parse Node := do
  let lo ← position
  advance
  let awaitAt ← position
  let awaits ← eatWord .awaitWord
  expect .openParen
  let found ← loopHead g awaits
  expect .closeParen
  let body ← within loopContext (nested g)
  match found with
  | .through target sequence => node (.forOf awaits) lo [target, sequence, body]
  | .over target object =>
    if awaits then failAt awaitAt .awaitInLoop
    node .forIn lo [target, object, body]
  | .steps start test step =>
    if awaits then failAt awaitAt .awaitInLoop
    node .for lo [start, test, step, body]

/-! ### Everything else -/

def withStatement (g : Grammar) : Parse Node := do
  let lo ← position
  advance
  let object ← head g
  let body ← nested g
  node .with lo [object, body]

def checkLabelled (body : Node) : Parse Unit := do
  if (← read).strict then noteAt body.lo .labelledStrict
  match body.kind with
  | .functionDeclaration async generator => if async || generator then noteAt body.lo .labelledSpecial
  | _ => return

/-- A statement behind its label. -/
def labelled (g : Grammar) (label : Node) (text : String) : Parse Node :=
  within (fun context => { context with allowBreak := true }) do
    let known := (← get).labels.contains text
    modify fun reader => { reader with labels := text :: reader.labels }
    let body ← if ← isAtWord .functionWord then do
        let body ← functionFrom g (← position) false true
        checkLabelled body
        pure body
      else nested g
    if known then noteAt label.lo (.repeatedLabel text)
    modify fun reader => { reader with labels := reader.labels.erase text }
    node .labelled label.lo [label, body]

/-- A statement that is an expression, or has a label. -/
def expressionStatement (g : Grammar) (lo : Nat) : Parse Node := do
  let found ← allowingIn (expression g)
  match found.kind with
  | .name text => if ← eatMark .colon then return ← labelled g found text
  | _ => checkExpression found
  if ← eatSemicolon then return ← node .expression lo [found]
  match ← token? with
  | some (.binary _) =>
    noteHere .semicolonExpected
    let whole ← g.operators found 0
    node .expression lo [whole]
  | some (.failed e) =>
    advance
    throw e
  | _ => failHere .statementEndExpected

/-- An expression that starts with `import`. -/
def importStatement (g : Grammar) : Parse Node := do
  let lo ← position
  if ← isAtWord .importWord <&&> (isNextMark .openParen <||> isNextMark .dot) then
    let found ← expression g
    let _ ← eatSemicolon
    return ← node .expression lo [found]
  failHere .moduleSyntax

/-- A statement that starts with `await`, which nothing encloses. -/
def awaitStatement (g : Grammar) : Parse Node := do
  let lo ← position
  noteHere .awaitInScript
  let operand ← awaitExpression g true
  let found ← allowingIn (g.operators operand 0)
  let _ ← eatSemicolon
  node .expression lo [found]

def awaitUsingStatement (g : Grammar) (lo : Nat) : Parse Node := do
  advance
  if let some found ← usingDeclaration? g lo then return found
  let operand ← awaitOperand g false lo
  let found ← allowingIn (g.operators operand 0)
  let _ ← eatSemicolon
  node .expression lo [found]

def statement (g : Grammar) (declarations top : Bool) : Parse Node := do
  let lo ← position
  if top && (← isAtWord .awaitWord) then return ← awaitStatement g
  if ← pure declarations <&&> isAtName "using" then
    if let some found ← usingDeclaration? g lo then return found
  match ← require with
  | .keyword word =>
    match word with
    | .awaitWord =>
      if ← pure declarations <&&> return (← next?).any (·.token == .ident "using") then
        awaitUsingStatement g lo
      else expressionStatement g lo
    | .importWord | .exportWord => importStatement g
    | .breakWord => breakStatement
    | .continueWord => continueStatement
    | .debuggerWord =>
      advance
      expectSemicolon
      node .debugger lo []
    | .doWord => doStatement g
    | .forWord => forStatement g
    | .functionWord =>
      if !declarations then noteHere .declarationNotAllowed
      functionFrom g lo false true
    | .classWord =>
      if !declarations then noteHere .declarationNotAllowed
      classFrom g true
    | .ifWord => ifStatement g
    | .returnWord => returnStatement g
    | .switchWord => switchStatement g
    | .throwWord => throwStatement g
    | .catchWord | .finallyWord => strayHandlers g
    | .tryWord => tryStatement g
    | .withWord => withStatement g
    | .whileWord => whileStatement g
    | .varWord => variableDeclaration g .var false
    | .constWord => if declarations then variableDeclaration g .const false else expressionStatement g lo
    | .letWord =>
      if ← pure declarations <&&> letDeclares then variableDeclaration g .let false else expressionStatement g lo
    | _ => expressionStatement g lo
  | .mark .openBrace => block g false
  | .mark .semicolon =>
    advance
    node .empty lo []
  | .ident "async" =>
    if (← next?).any (·.token == .keyword .functionWord) && !(← newlineBeforeNext) then
      asyncFunction g true
    else expressionStatement g lo
  | _ => expressionStatement g lo

end Bundler.Script.Parse
