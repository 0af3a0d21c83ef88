import Bundler.Proofs.Script.Reading.Operator

/-!
Statements go forth. The body of a loop that ends with its test is read in front of the test, which stands before it in the
tree.
-/

namespace Bundler.Script.Parse

open Reader
open Node (Beneath)

variable {g : Grammar} {lo start : Nat} {stack : List Node} {inLoop isOf declarations top awaits : Bool} {kind : VariableKind}
  {label target : Node} {text : String}

theorem nested_reads (forth : g.Forth) : Reads (nested g) := forth.statement false false

theorem head_reads (forth : g.Forth) : Reads (head g) := fun lo stack => by
  refine expect_keeps.bind fun _ => (expression_reads forth).within.bind fun found => ?_
  exact expect_keeps.bind fun _ => .pure fun _ => id

theorem checkExpression_rests (n : Node) : Rests (checkExpression n) := .forM _ fun _ _ => noteAt_rests

/-! ### Jumps -/

theorem jumpLabel_reads : Reads jumpLabel := fun lo stack => by
  refine eatSemicolon_keeps.bind fun _ => .ite (fun _ => absent_reads lo stack) fun _ => reference_reads.bind fun label => ?_
  exact expectSemicolon_keeps.bind fun _ => .pure fun _ => id

theorem unknownLabel_rests (label : Node) : Rests (unknownLabel label) := by
  unfold unknownLabel
  split
  · exact .state fun _ => .pure _
  · exact .pure _

theorem breakStatement_reads : Reads breakStatement := fun lo stack => by
  refine position_keeps.bind fun start => advance_keeps.bind fun _ => jumpLabel_reads.bind fun label => ?_
  refine (unknownLabel_rests label).bind fun _ => ?_
  extract_lets whole
  have goes (u : Unit) : Onward (Carries lo (label :: stack)) (whole u) fun n => Carries lo (n :: stack) := node_onward rfl
  exact .ite (fun _ => noteAt_rests.bind goes) fun _ => .surroundings fun _ => noteAt_rests.when (goes ())

theorem continueStatement_reads : Reads continueStatement := fun lo stack => by
  refine position_keeps.bind fun start => advance_keeps.bind fun _ => jumpLabel_reads.bind fun label => ?_
  refine .surroundings fun context => ?_
  extract_lets whole
  have goes (u : Unit) : Onward (Carries lo (label :: stack)) (whole u) fun n => Carries lo (n :: stack) := node_onward rfl
  exact .ite (fun _ => noteAt_rests.bind goes) fun _ => (unknownLabel_rests label).bind fun _ => noteAt_rests.when (goes ())

theorem returnStatement_reads (forth : g.Forth) : Reads (returnStatement g) := fun lo stack => by
  refine position_keeps.bind fun start => advance_keeps.bind fun _ => isAtSemicolon_keeps.bind fun _ => ?_
  extract_lets behind
  have goes (value : Node) : Onward (Carries lo (value :: stack)) (behind value) fun n => Carries lo (n :: stack) :=
    expectSemicolon_keeps.bind fun _ => .surroundings fun _ => noteAt_rests.when (node_onward rfl)
  exact .ite (fun _ => absent_reads.bind goes) fun _ => (expression_reads forth).within.bind goes

theorem throwStatement_reads (forth : g.Forth) : Reads (throwStatement g) := fun lo stack => by
  refine position_keeps.bind fun start => advance_keeps.bind fun _ => newlineBefore_keeps.bind fun _ => ?_
  refine Rests.when (fun _ => failHere_onward) ((expression_reads forth).within.bind fun value => ?_)
  exact expectSemicolon_keeps.bind fun _ => node_onward rfl

/-! ### Declarations -/

theorem declarator_reads (forth : g.Forth) : Reads (declarator g inLoop) := fun lo stack => by
  refine position_keeps.bind fun start => forth.bindingPattern.bind fun target => isAtWord_keeps.bind fun _ => isAtName_keeps.bind fun _ => ?_
  have alone : Onward (Carries lo (target :: stack)) (node .declarator start [target, .none]) fun n => Carries lo (n :: stack) :=
    (node_onward rfl).given fun _ => Carries.absent
  refine .ite (fun _ => alone) fun _ => eat_keeps.bind fun _ => .ite (fun _ => forth.assignment.bind fun value => ?_) fun _ => ?_
  · exact (checkExpression_rests value).bind fun _ => node_onward rfl
  · split
    · exact alone
    · exact failAt_onward

theorem dropStatement_keeps : Keeps dropStatement := fun lo stack => by
  refine .loop (I := fun _ => Carries lo stack) fun _ => eatSemicolon_keeps.bind fun _ => .ite (fun _ => .pure fun _ => id) fun _ => ?_
  refine advance_keeps.bind fun _ => token?_keeps.bind fun token => ?_
  split
  · exact .pure fun _ => id
  · exact .pure fun _ => id

theorem declarators_reads (forth : g.Forth) : ReadsAll (declarators g start kind inLoop) := fun lo stack => by
  refine .loop (I := fun found => Carries lo (found ++ stack)) fun found => isAtMark_keeps.bind fun _ => isAtEnd_keeps.bind fun _ => ?_
  refine .ite (fun _ => ?_) fun _ => ?_
  · refine lastStart_rests.bind fun _ => lastEnd_rests.bind fun _ => noteAt_rests.bind fun _ => ?_
    exact .pure fun _ => Carries.reversed
  · refine (declarator_reads forth).within.bind fun one => eatMark_keeps.bind fun _ => ?_
    exact .ite (fun _ => .pure fun _ => id) fun _ => .pure fun _ carries => by simpa using carries

theorem variableDeclaration_reads (forth : g.Forth) : Reads (variableDeclaration g kind inLoop) := fun lo stack => by
  refine position_keeps.bind fun start => advance_keeps.bind fun _ => (declarators_reads forth).bind fun found => ?_
  refine ((Keeps.pure inLoop).either eatSemicolon_keeps).bind fun ended => ?_
  extract_lets whole
  have goes : Onward (Carries lo (found.reverse ++ stack)) (whole ()) fun n => Carries lo (n :: stack) := node_onward rfl
  refine .ite (fun _ => noteHere_onward.bind fun _ => ?_) fun _ => goes
  exact Onward.bind (expression_reads forth lo stack).attempt.never fun _ =>
    Onward.bind (dropStatement_keeps lo stack).never fun _ => goes.never

theorem letDeclares_onward : Onward (Posed lo stack) letDeclares fun _ => Carries lo stack :=
  next?_posed.bind fun _ => .pure fun _ => And.left

theorem letDeclaration_onward : Onward (Posed lo stack) (pure declarations <&&> letDeclares) fun _ => Carries lo stack := by
  cases declarations with
  | false => exact .pure fun _ => And.left
  | true => exact letDeclares_onward

/-- A declaration that starts with the word `using` is a problem. -/
theorem usingDeclaration?_onward (forth : g.Forth) : Onward (Posed lo stack) (usingDeclaration? g start) fun found r =>
    Carries lo stack r ∧ found = none := by
  refine .surroundings fun context => next?_posed.bind fun next => ?_
  extract_lets binds
  refine Onward.given (P := Carries lo stack) ?_ (fun _ => And.left)
  split
  · exact .pure fun _ carries => ⟨carries, rfl⟩
  · refine advance_keeps.bind fun _ => (declarators_reads forth).bind fun found => ?_
    refine Onward.bind (.note (S := fun _ _ => False)) fun _ => ?_
    exact Onward.bind (lastEnd_rests.bind fun _ => .pure fun _ => id) fun _ => .pure fun _ => False.elim

theorem variableKind?_keeps : Keeps variableKind? := fun lo stack => by
  refine token?_onward.bind fun token => ?_
  split
  · exact .pure fun _ => And.left
  · exact .pure fun _ => And.left
  · exact Onward.posed (letDeclares_onward.bind fun _ => .pure fun _ => id) rfl
  · exact .pure fun _ => And.left

/-! ### Branches -/

theorem if_onward {test yes no : Node} : Onward (Carries lo (no :: yes :: test :: stack)) (node .if start [test, yes, no])
    fun n r => Carries lo (n :: stack) r ∧ n.kind = .if :=
  lastEnd_rests.bind fun _ => .pure fun _ carries => ⟨Carries.node rfl carries, rfl⟩

theorem ifStatement_onward (forth : g.Forth) : Onward (Carries lo stack) (ifStatement g) fun n r =>
    Carries lo (n :: stack) r ∧ n.kind = .if := by
  refine position_keeps.bind fun start => advance_keeps.bind fun _ => ?_
  extract_lets apart
  refine expect_keeps.bind fun _ => (expression_reads forth).within.within.bind fun test => expect_keeps.bind fun _ => ?_
  refine (nested_reads forth).within.bind fun yes => .surroundings fun context => ?_
  refine .ite (fun _ => if_onward.given (fun _ => Carries.absent)) fun _ => ?_
  refine Onward.bind (Q := fun (found : List Node × Node) r =>
    Carries lo (found.2 :: (found.1 ++ yes :: test :: stack)) r ∧ ∀ one ∈ found.1, one.kind = .if) ?_ fun (chain, last) => ?_
  · refine Onward.given (Onward.loop (I := fun chain r => Carries lo (chain ++ yes :: test :: stack) r ∧ ∀ one ∈ chain, one.kind = .if)
      fun chain => ?_) (fun _ carries => ⟨carries, by simp⟩)
    refine Onward.bind (eatWord_keeps lo _).frame fun _ => .ite (fun _ => ?_) fun _ => ?_
    · exact .pure fun _ ⟨carries, branches⟩ => ⟨carries.absent, branches⟩
    refine Onward.bind (isAtWord_keeps lo _).frame fun _ => .ite (fun _ => ?_) fun _ => ?_
    · exact Onward.bind ((nested_reads forth).within lo _).frame fun last => .pure fun _ => id
    · refine Onward.bind (forth.ifStatement lo _).within.frame fun one => .pure fun r given => ?_
      exact ⟨given.1.1, List.forall_mem_cons.mpr ⟨given.1.2, given.2⟩⟩
  · refine if_onward.given fun r given => ?_
    exact given.1.branch given.2

theorem switchCase_onward (forth : g.Forth) {defaulted : Bool} : Onward (Carries lo stack) (switchCase g defaulted) fun found =>
    Carries lo (found.1 :: stack) := by
  refine position_keeps.bind fun start => isAtWord_keeps.bind fun isDefault => advance_keeps.bind fun _ => ?_
  refine Rests.when (fun _ => failHere_onward) ?_
  extract_lets behind
  have body : ReadsAll (loop [] fun found => do
      if (← isAtEnd) || (← isAtWord .caseWord) || (← isAtWord .defaultWord) || (← isAtMark .closeBrace) then
        return .inr found.reverse
      return .inl ((← g.statement true false) :: found)) := fun lo stack => by
    refine .loop (I := fun found => Carries lo (found ++ stack)) fun found => isAtEnd_keeps.bind fun _ => isAtWord_keeps.bind fun _ => ?_
    refine isAtWord_keeps.bind fun _ => isAtMark_keeps.bind fun _ => .ite (fun _ => .pure fun _ => Carries.reversed) fun _ => ?_
    exact (forth.statement true false).bind fun _ => .pure fun _ => id
  have goes (test : Node) : Onward (Carries lo (test :: stack)) (behind test) fun found => Carries lo (found.1 :: stack) :=
    expect_keeps.bind fun _ => body.bind fun body => (nodeOver_onward rfl rfl).bind fun _ => .pure fun _ => id
  exact .ite (fun _ => absent_reads.bind goes) fun _ => (expression_reads forth).within.bind goes

theorem switchStatement_reads (forth : g.Forth) : Reads (switchStatement g) := fun lo stack => by
  refine position_keeps.bind fun start => advance_keeps.bind fun _ => (head_reads forth).bind fun value => expect_keeps.bind fun _ => ?_
  refine Onward.bind (Q := fun found => Carries lo (found.reverse ++ value :: stack)) (Onward.within ?_) fun found =>
    expect_keeps.bind fun _ => nodeOver_onward rfl rfl
  refine .loop (I := fun (state : List Node × Bool) => Carries lo (state.1 ++ value :: stack)) fun state => ?_
  obtain ⟨found, defaulted⟩ := state
  refine isAtWord_keeps.bind fun _ => isAtWord_keeps.bind fun _ => .ite (fun _ => .pure fun _ => Carries.reversed) fun _ => ?_
  exact Onward.bind (switchCase_onward forth) fun _ => .pure fun _ => id

/-! ### Handlers -/

theorem catchClause_reads (forth : g.Forth) : Reads (catchClause g) := fun lo stack => by
  refine position_keeps.bind fun start => eatWord_keeps.bind fun _ => .ite (fun _ => absent_reads lo stack) fun _ => ?_
  refine eatMark_keeps.bind fun _ => ?_
  extract_lets behind
  have goes (target : Node) : Onward (Carries lo (target :: stack)) (behind target) fun n => Carries lo (n :: stack) :=
    (block_reads forth).bind fun body => node_onward rfl
  refine .ite (fun _ => forth.bindingPattern.bind fun target => expect_keeps.bind fun _ => ?_) fun _ => absent_reads.bind goes
  exact Onward.bind (.pure fun _ => id) goes

theorem finallyBlock_reads (forth : g.Forth) : Reads (finallyBlock g) := fun lo stack =>
  eatWord_keeps.bind fun _ => .ite (fun _ => block_reads forth lo stack) fun _ => absent_reads lo stack

theorem tryStatement_reads (forth : g.Forth) : Reads (tryStatement g) := fun lo stack => by
  refine position_keeps.bind fun start => advance_keeps.bind fun _ => (block_reads forth).bind fun body => ?_
  refine position_keeps.bind fun behind => (catchClause_reads forth).bind fun handler => ?_
  exact (finallyBlock_reads forth).bind fun finalizer => noteAt_rests.when (node_onward rfl)

theorem strayHandlers_reads (forth : g.Forth) : Reads (strayHandlers g) := fun lo stack => by
  refine position_keeps.bind fun start => noteHere_onward.bind fun _ => ?_
  refine Onward.bind (Q := fun _ _ => False) (catchClause_reads forth lo stack).attempt.never fun _ => ?_
  refine Onward.bind (Q := fun _ _ => False) (finallyBlock_reads forth lo stack).attempt.never fun _ => ?_
  exact .pure fun _ => False.elim

/-! ### Loops -/

theorem whileStatement_reads (forth : g.Forth) : Reads (whileStatement g) := fun lo stack => by
  refine position_keeps.bind fun start => advance_keeps.bind fun _ => (head_reads forth).bind fun test => ?_
  exact (nested_reads forth).within.bind fun body => node_onward rfl

/-- The body of the loop is read in front of the test. -/
theorem doStatement_reads (forth : g.Forth) : Reads (doStatement g) := fun lo stack => by
  refine position_keeps.bind fun start => advance_keeps.bind fun _ => (nested_reads forth).within.bind fun body => ?_
  refine expectWord_keeps.bind fun _ => (head_reads forth).bind fun test => eatSemicolon_keeps.bind fun _ => ?_
  exact node_onward rfl

/-- The parts of the head of a loop, in the order of the text. -/
def LoopHead.parts : LoopHead → List Node
  | .steps start test step => [start, test, step]
  | .over target object => [target, object]
  | .through target sequence => [target, sequence]

theorem stepsHead_onward (forth : g.Forth) {start : Node} : Onward (Carries lo (start :: stack)) (stepsHead g start) fun found =>
    Carries lo (found.parts.reverse ++ stack) := by
  refine eatMark_keeps.bind fun _ => ?_
  extract_lets behind
  have goes (test : Node) : Onward (Carries lo (test :: start :: stack)) (behind test) fun found =>
      Carries lo (found.parts.reverse ++ stack) := by
    refine isAtMark_keeps.bind fun _ => .ite (fun _ => absent_reads.bind fun step => .pure fun _ => id) fun _ => ?_
    exact (expression_reads forth).within.bind fun step => .pure fun _ => id
  refine .ite (fun _ => absent_reads.bind goes) fun _ => (expression_reads forth).within.bind fun test => ?_
  exact expect_keeps.bind fun _ => Onward.bind (.pure fun _ => id) goes

theorem overHead_onward (forth : g.Forth) : Onward (Carries lo (target :: stack)) (overHead g target) fun found =>
    Carries lo (found.parts.reverse ++ stack) := by
  refine isAtWord_keeps.bind fun isIn => advance_keeps.bind fun _ => .ite (fun _ => ?_) fun _ => ?_
  · exact (expression_reads forth).within.bind fun object => .pure fun _ => id
  · exact forth.assignment.within.bind fun sequence => .pure fun _ => id

theorem checkLoopVariables_rests (declaration : Node) (isOf : Bool) : Rests (checkLoopVariables declaration isOf) := by
  unfold checkLoopVariables
  split
  · exact .surroundings fun _ => noteAt_rests.last
  · exact .forM _ fun _ _ => noteAt_rests
  · exact .pure _

theorem loopHead_onward (forth : g.Forth) : Onward (Carries lo stack) (loopHead g awaits) fun found =>
    Carries lo (found.parts.reverse ++ stack) := by
  refine variableKind?_keeps.bind fun found => ?_
  cases found with
  | some kind =>
    refine (variableDeclaration_reads forth).bind fun declaration => isAtName_keeps.bind fun isOf => isAtWord_keeps.bind fun _ => ?_
    refine .ite (fun _ => (checkLoopVariables_rests declaration isOf).bind fun _ => overHead_onward forth) fun _ => ?_
    exact expect_keeps.bind fun _ => stepsHead_onward forth
  | none =>
    refine eatMark_keeps.bind fun _ => .ite (fun _ => ?_) fun _ => ?_
    · exact (stepsHead_onward forth).given fun _ => Carries.absent
    refine (expression_reads forth).within.bind fun start => isAtName_keeps.bind fun _ => isAtWord_keeps.bind fun _ => ?_
    refine .ite (fun _ => (forth.pattern .target start).bind fun target => ?_) fun _ => expect_keeps.bind fun _ => ?_
    · exact (overHead_onward forth).given fun _ ⟨carries, beneath⟩ => carries.beneath beneath
    · exact (checkExpression_rests start).bind fun _ => stepsHead_onward forth

theorem forStatement_reads (forth : g.Forth) : Reads (forStatement g) := fun lo stack => by
  refine position_keeps.bind fun start => advance_keeps.bind fun _ => position_keeps.bind fun awaitAt => eatWord_keeps.bind fun awaits => ?_
  refine expect_keeps.bind fun _ => Onward.bind (loopHead_onward forth) fun found => expect_keeps.bind fun _ => ?_
  refine (nested_reads forth).within.bind fun body => ?_
  match found with
  | .through target sequence => exact node_onward rfl
  | .over target object => exact failAt_rests.when (node_onward rfl)
  | .steps start test step => exact failAt_rests.when (node_onward rfl)

/-! ### Everything else -/

theorem withStatement_reads (forth : g.Forth) : Reads (withStatement g) := fun lo stack => by
  refine position_keeps.bind fun start => advance_keeps.bind fun _ => (head_reads forth).bind fun object => ?_
  exact (nested_reads forth).bind fun body => node_onward rfl

theorem checkLabelled_rests (body : Node) : Rests (checkLabelled body) := .surroundings fun _ P => by
  refine noteAt_rests.when ?_
  split
  · exact noteAt_rests.last P
  · exact .pure fun _ => id

theorem labelled_onward (forth : g.Forth) : Onward (Carries lo (label :: stack)) (labelled g label text) fun n =>
    Carries lo (n :: stack) := by
  refine Onward.within (.state fun r => Onward.forget ?_)
  extract_lets known behind
  refine (modify_keeps fun _ => ?_).bind fun _ => isAtWord_keeps.bind fun _ => ?_
  · exact ⟨rfl, rfl, rfl, rfl, rfl⟩
  have goes (body : Node) : Onward (Carries lo (body :: label :: stack)) (behind body) fun n => Carries lo (n :: stack) := by
    refine noteAt_rests.when ((modify_keeps ?_).bind fun _ => node_onward rfl)
    exact fun _ => ⟨rfl, rfl, rfl, rfl, rfl⟩
  refine .ite (fun _ => position_keeps.bind fun start => (functionFrom_reads forth).bind fun body => ?_) fun _ => ?_
  · exact (checkLabelled_rests body).bind fun _ => Onward.bind (.pure fun _ => id) goes
  · exact (nested_reads forth).bind goes

theorem expressionStatement_reads (forth : g.Forth) : Reads (expressionStatement g start) := fun lo stack => by
  refine (expression_reads forth).within.bind fun found => ?_
  extract_lets behind
  have goes (u : Unit) : Onward (Carries lo (found :: stack)) (behind u) fun n => Carries lo (n :: stack) := by
    refine eatSemicolon_keeps.bind fun _ => .ite (fun _ => node_onward rfl) fun _ => token?_keeps.bind fun token => ?_
    split
    · exact noteHere_rests.bind fun _ => Onward.bind (forth.operators found 0 lo stack) fun whole => node_onward rfl
    · exact advance_keeps.bind fun _ => .fail
    · exact failHere_onward
  split
  · exact eatMark_keeps.bind fun _ => .ite (fun _ => labelled_onward forth) fun _ => goes ()
  · exact (checkExpression_rests found).bind goes

theorem isAtImport_keeps : Keeps (isAtWord .importWord <&&> (isNextMark .openParen <||> isNextMark .dot)) := fun lo stack => by
  refine isAt_onward.bind fun found => ?_
  cases found with
  | false => exact .pure fun _ => And.left
  | true =>
    refine Onward.given (P := Posed lo stack) (isNextMark_onward.bind fun found => ?_)
      (fun _ ⟨carries, known⟩ => ⟨carries, .of_token (known rfl) rfl⟩)
    cases found with
    | false => exact isNextMark_carries.forget
    | true => exact .pure fun _ given => given.1.1

theorem importStatement_reads (forth : g.Forth) : Reads (importStatement g) := fun lo stack => by
  refine position_keeps.bind fun start => isAtImport_keeps.bind fun _ => .ite (fun _ => ?_) fun _ => failHere_onward
  exact (expression_reads forth).bind fun found => eatSemicolon_keeps.bind fun _ => node_onward rfl

theorem awaitStatement_reads (forth : g.Forth) : Reads (awaitStatement g) := fun lo stack => by
  refine position_keeps.bind fun start => noteHere_rests.bind fun _ => (awaitExpression_reads forth).bind fun operand => ?_
  refine Onward.bind (forth.operators operand 0 lo stack).within fun found => eatSemicolon_keeps.bind fun _ => node_onward rfl

theorem awaitUsingStatement_onward (forth : g.Forth) : Onward (fun r => Carries lo stack r ∧ Paired r) (awaitUsingStatement g start)
    fun n => Carries lo (n :: stack) := by
  refine advance_paired.bind fun _ => (usingDeclaration?_onward forth).bind fun found => ?_
  cases found with
  | some found => exact .pure fun _ given => nomatch given.2
  | none =>
    refine Onward.forget ((awaitOperand_reads forth).bind fun operand => ?_)
    exact Onward.bind (forth.operators operand 0 lo stack).within fun found => eatSemicolon_keeps.bind fun _ => node_onward rfl

/-- The word `using` behind `await`, where declarations may stand. -/
theorem isNextUsing_onward : Onward (Posed lo stack) (pure declarations <&&> do return (← next?).any (·.token == .ident "using"))
    fun found r => Carries lo stack r ∧ (found = true → Paired r) := by
  cases declarations with
  | false => exact .pure fun _ ⟨carries, _⟩ => ⟨carries, nofun⟩
  | true => exact (isNext_onward rfl).gives fun _ _ ⟨posed, paired⟩ => ⟨posed.1, paired⟩

theorem isAtUsing_onward : Onward (Carries lo stack) (pure declarations <&&> isAtName "using") fun found r =>
    Carries lo stack r ∧ (found = true → r.Poised) := by
  cases declarations with
  | false => exact .pure fun _ carries => ⟨carries, nofun⟩
  | true => exact isAt_onward.gives fun _ _ ⟨carries, known⟩ => ⟨carries, fun found => .of_token (known found) rfl⟩

theorem statement_reads (forth : g.Forth) : Reads (statement g declarations top) := fun lo stack => by
  refine position_keeps.bind fun start => isAtWord_keeps.bind fun _ => .ite (fun _ => awaitStatement_reads forth lo stack) fun _ => ?_
  refine isAtUsing_onward.bind fun isUsing => ?_
  have expression : Onward (Carries lo stack) (expressionStatement g start) fun n => Carries lo (n :: stack) :=
    expressionStatement_reads forth lo stack
  extract_lets function heir behind
  have goes (u : Unit) : Onward (Carries lo stack) (behind u) fun n => Carries lo (n :: stack) := by
    refine require_onward.bind fun token => ?_
    split
    · next word =>
      split
      · refine Onward.posed (isNextUsing_onward.bind fun isUsing => .ite (fun found => ?_) fun _ => ?_) rfl
        · exact (awaitUsingStatement_onward forth).given fun _ ⟨carries, paired⟩ => ⟨carries, paired found⟩
        · exact expression.forget
      · exact (importStatement_reads forth lo stack).forget
      · exact (importStatement_reads forth lo stack).forget
      · exact (breakStatement_reads lo stack).forget
      · exact (continueStatement_reads lo stack).forget
      · exact (advance_keeps.bind fun _ => expectSemicolon_keeps.bind fun _ => node_onward rfl).forget
      · exact (doStatement_reads forth lo stack).forget
      · exact (forStatement_reads forth lo stack).forget
      · exact Onward.forget (noteHere_rests.when (functionFrom_reads forth lo stack))
      · exact Onward.forget (noteHere_rests.when (classFrom_reads forth lo stack))
      · exact ((ifStatement_onward forth).gives fun _ _ => And.left).forget
      · exact (returnStatement_reads forth lo stack).forget
      · exact (switchStatement_reads forth lo stack).forget
      · exact (throwStatement_reads forth lo stack).forget
      · exact (strayHandlers_reads forth lo stack).forget
      · exact (strayHandlers_reads forth lo stack).forget
      · exact (tryStatement_reads forth lo stack).forget
      · exact (withStatement_reads forth lo stack).forget
      · exact (whileStatement_reads forth lo stack).forget
      · exact (variableDeclaration_reads forth lo stack).forget
      · exact Onward.forget (.ite (fun _ => variableDeclaration_reads forth lo stack) fun _ => expression)
      · refine Onward.posed (letDeclaration_onward.bind fun _ => ?_) rfl
        exact .ite (fun _ => variableDeclaration_reads forth lo stack) fun _ => expression
      · exact expression.forget
    · exact (block_reads forth lo stack).forget
    · exact (advance_keeps.bind fun _ => node_onward rfl).forget
    · refine Onward.posed (next?_posed.bind fun _ => newlineBeforeNext_onward.bind fun _ => ?_) rfl
      exact Onward.forget (.ite (fun _ => asyncFunction_reads forth lo stack) fun _ => expression)
    · exact expression.forget
  refine .ite (fun found => ?_) fun _ => (goes ()).forget
  refine Onward.given (P := Posed lo stack) ((usingDeclaration?_onward forth).bind fun found => ?_)
    (fun _ ⟨carries, poised⟩ => ⟨carries, poised found⟩)
  cases found with
  | some found => exact .pure fun _ given => nomatch given.2
  | none => exact (goes ()).forget

end Bundler.Script.Parse
