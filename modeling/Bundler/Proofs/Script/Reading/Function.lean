import Bundler.Proofs.Script.Reading.Pattern

/-!
Functions, object literals and classes go forth. The superclass of a class is read before the members that it stands behind
in the tree.
-/

namespace Bundler.Script.Parse

open Reader

variable {g : Grammar} {lo start offset : Nat} {stack : List Node} {key : Node} {name : String} {kind : MethodKind}
  {parser : Parse Node} {directives top close async generator simple defaults declaration static newlines : Bool}

/-! ### Blocks and bodies -/

theorem statements_reads (forth : g.Forth) : ReadsAll (statements g directives top close) := fun lo stack => by
  refine .loop (I := fun (state : List Node × Bool × Bool) => Carries lo (state.1 ++ stack)) fun (found, first, strict) => ?_
  refine Onward.within (isAtEnd_keeps.bind fun _ => .ite (fun _ => ?_) fun _ => isAtMark_keeps.bind fun _ => ?_)
  · exact noteHere_rests.when (.pure fun _ => Carries.reversed)
  · refine .ite (fun _ => advance_keeps.bind fun _ => .pure fun _ => Carries.reversed) fun _ => ?_
    exact (forth.statement true top).bind fun one => .pure fun _ => id

theorem block_reads (forth : g.Forth) : Reads (block g directives) := fun lo stack => by
  refine position_keeps.bind fun start => expect_keeps.bind fun _ => (statements_reads forth).bind fun found => ?_
  exact node_onward rfl

theorem inNewFunction_reads (reads : Reads parser) : Reads (inNewFunction parser) := fun lo stack => by
  refine .get fun outer => .replace id (fun carries => carries.congr rfl rfl rfl rfl) (reads.bind fun result => ?_)
  refine (modify_keeps ?_).bind fun _ => .pure fun _ => id
  exact fun _ => ⟨rfl, rfl, rfl, rfl, rfl⟩

theorem checkDirectives_rests (simple : Bool) (body : Node) : Rests (checkDirectives simple body) := fun P => by
  unfold checkDirectives
  refine .ite (fun _ => .pure fun _ => id) fun _ => ?_
  split
  · exact noteAt_rests P
  · exact .pure fun _ => id

theorem functionBody_reads (forth : g.Forth) : Reads (functionBody g async generator simple) := by
  refine Reads.within (inNewFunction_reads fun lo stack => ?_)
  exact (block_reads forth).within.bind fun body => (checkDirectives_rests simple body).bind fun _ => .pure fun _ => id

theorem arrowBody_reads (forth : g.Forth) : Reads (arrowBody g async simple) := by
  refine Reads.within (inNewFunction_reads fun lo stack => ?_)
  refine isAtMark_keeps.bind fun _ => .ite (fun _ => ?_) fun _ => forth.assignment lo stack
  exact (block_reads forth).bind fun body => (checkDirectives_rests simple body).bind fun _ => .pure fun _ => id

/-! ### Parameters -/

theorem parameter_reads (forth : g.Forth) : Reads (parameter g) := fun lo stack => by
  refine position_keeps.bind fun start => forth.bindingPattern.bind fun left => eat_keeps.bind fun _ => ?_
  exact .ite (fun _ => forth.assignment.bind fun right => node_onward rfl) fun _ => .pure fun _ => id

theorem restParameter_reads (forth : g.Forth) : Reads (restParameter g start defaults) := fun lo stack => by
  refine forth.bindingPattern.bind fun left => ((Keeps.pure defaults).both eat_keeps).bind fun _ => ?_
  refine .ite (fun _ => forth.assignment.bind fun right => noteAt_rests.bind fun _ => ?_) fun _ => node_onward rfl
  exact (node_onward rfl).bind fun defaulted => node_onward rfl

theorem parameters_reads (forth : g.Forth) : ReadsAll (parameters g defaults) := fun lo stack => by
  refine .loop (I := fun (state : List Node × Option Nat) => Carries lo (state.1 ++ stack)) fun (found, restAt) => ?_
  refine isAtEnd_keeps.bind fun _ => isAtMark_keeps.bind fun _ => .ite (fun _ => .pure fun _ => Carries.reversed) fun _ => ?_
  extract_lets one
  have goes (u : Unit) : Onward (Carries lo (found ++ stack)) (one u) fun result r =>
      result.elim (fun state => Carries lo (state.1 ++ stack) r) fun found => Carries lo (found.reverse ++ stack) r := by
    refine position_keeps.bind fun start => eatMark_keeps.bind fun rest => ?_
    exact .ite (fun _ => (restParameter_reads forth).bind listed_onward) fun _ => (parameter_reads forth).bind listed_onward
  cases restAt with
  | none => exact goes ()
  | some offset => exact noteAt_rests.bind goes

theorem checkAccessor_rests (kind : MethodKind) (offset : Nat) (found : List Node) : Rests (checkAccessor kind offset found) :=
  fun P => by
  cases kind with
  | plain => exact .pure fun _ => id
  | getter => exact noteAt_rests.last P
  | setter =>
    unfold checkAccessor
    refine noteAt_rests.when ?_
    split
    · exact noteAt_rests.last P
    · exact .pure fun _ => id

theorem signature_reads (forth : g.Forth) : ReadsAll (signature g async generator kind offset) := fun lo stack => by
  refine Onward.within (expect_keeps.bind fun _ => ?_)
  have checked : ReadsAll (do
      let found ← parameters g true
      checkAccessor kind offset found
      return found) := fun lo stack =>
    (parameters_reads forth).bind fun found => (checkAccessor_rests kind offset found).bind fun _ => .pure fun _ => id
  refine checked.within.bind fun found => expect_keeps.bind fun _ => (functionBody_reads forth).bind fun body => ?_
  exact .pure fun _ carries => by simpa using carries

theorem functionFrom_reads (forth : g.Forth) : Reads (functionFrom g start async declaration) := fun lo stack => by
  refine advance_keeps.bind fun _ => eat_keeps.bind fun generator => bindingName?_reads.within.bind fun name => ?_
  refine Onward.within ((signature_reads forth).bind fun rest => ?_)
  cases declaration
  · exact nodeOver_onward rfl rfl
  · exact nodeOver_onward rfl rfl

theorem asyncFunction_reads (forth : g.Forth) : Reads (asyncFunction g declaration) := fun lo stack => by
  exact position_keeps.bind fun start => advance_keeps.bind fun _ => functionFrom_reads forth lo stack

/-! ### Object literals -/

theorem objectMethod_onward (forth : g.Forth) : Onward (Carries lo (key :: stack)) (objectMethod g start key kind async generator)
    fun n => Carries lo (n :: stack) :=
  .within ((signature_reads forth).bind fun _ => nodeOver_onward rfl rfl)

/-- The word that says what a method is gives way to its key. -/
theorem rekeyedMethod_onward (forth : g.Forth) : Onward (Carries lo (key :: stack))
    (propertyKey g >>= fun key => objectMethod g start key kind async generator) fun n => Carries lo (n :: stack) :=
  ((propertyKey_reads forth).bind fun _ => objectMethod_onward forth).given fun _ => Carries.drop

theorem namedProperty_onward (forth : g.Forth) : Onward (Carries lo (key :: stack)) (namedProperty g start key name)
    fun n => Carries lo (n :: stack) := by
  refine eatMark_keeps.bind fun _ => noteLastIf_onward ?_
  refine isAt_keeps.bind fun _ => isAtMark_keeps.bind fun _ => isAtMark_keeps.bind fun _ => .ite (fun _ => ?_) fun _ => ?_
  · refine .surroundings fun context => noteAt_rests.when ?_
    refine eat_keeps.bind fun _ => .ite (fun _ => ?_) fun _ => ?_
    · exact forth.assignment.within.bind fun value => node_onward rfl
    · exact (mk_onward rfl).given fun _ => Carries.absent
  split
  · exact rekeyedMethod_onward forth
  · exact rekeyedMethod_onward forth
  · exact eat_keeps.bind fun generator => rekeyedMethod_onward forth
  · exact unexpected_onward

theorem objectProperty_reads (forth : g.Forth) : Reads (objectProperty g) := fun lo stack => by
  refine position_keeps.bind fun start => eatMark_keeps.bind fun _ => .ite (fun _ => ?_) fun _ => ?_
  · exact forth.assignment.within.bind fun inner => node_onward rfl
  refine eat_keeps.bind fun _ => .ite (fun _ => ?_) fun _ => ?_
  · exact (propertyKey_reads forth).bind fun key => objectMethod_onward forth
  refine (propertyKey_reads forth).bind fun key => eatMark_keeps.bind fun _ => .ite (fun _ => ?_) fun _ => ?_
  · exact forth.assignment.within.bind fun value => mk_onward rfl
  refine isAtMark_keeps.bind fun _ => .ite (fun _ => objectMethod_onward forth) fun _ => ?_
  split
  · exact namedProperty_onward forth
  · exact unexpected_onward

theorem objectLiteral_reads (forth : g.Forth) : Reads (objectLiteral g) := fun lo stack => by
  refine position_keeps.bind fun start => (properties_onward (objectProperty_reads forth)).bind fun (found, comma) => ?_
  cases comma with
  | none => exact node_onward rfl
  | some offset =>
    refine (modify_keeps ?_).bind fun _ => node_onward rfl
    exact fun _ => ⟨rfl, rfl, rfl, rfl, rfl⟩

/-! ### Classes -/

theorem isAtFieldEnd_keeps : Keeps (isAtFieldEnd newlines) := fun lo stack => by
  refine isAt_keeps.bind fun _ => isAtMark_keeps.bind fun _ => .ite (fun _ => .pure fun _ => id) fun _ => ?_
  exact .ite (fun _ => isAtSemicolon_keeps lo stack) fun _ => isAtMark_keeps lo stack

theorem classMethod_onward (forth : g.Forth) : Onward (Carries lo (key :: stack))
    (classMethod g start key static kind async generator offset) fun n => Carries lo (n :: stack) :=
  .within ((signature_reads forth).bind fun _ => nodeOver_onward rfl rfl)

theorem classField_onward (forth : g.Forth) : Onward (Carries lo (key :: stack)) (classField g start key static) fun n =>
    Carries lo (n :: stack) := by
  unfold classField
  refine failAt_rests.when (Onward.within (eat_keeps.bind fun _ => ?_))
  extract_lets behind
  have goes (value : Node) : Onward (Carries lo (value :: key :: stack)) (behind value) fun n => Carries lo (n :: stack) :=
    eatSemicolon_keeps.bind fun _ => noteHere_rests.when (node_onward rfl)
  exact .ite (fun _ => forth.assignment.bind goes) fun _ => absent_reads.bind goes

theorem classConstructor_onward (forth : g.Forth) : Onward (Carries lo (key :: stack)) (classConstructor g start key) fun n =>
    Carries lo (n :: stack) := by
  refine expect_keeps.bind fun _ => (parameters_reads forth).bind fun found => expect_keeps.bind fun _ => ?_
  refine (functionBody_reads forth).bind fun body => (nodeOver_onward rfl rfl).given fun _ carries => ?_
  simpa using carries

theorem staticBlock_reads (forth : g.Forth) : Reads (staticBlock g start) := fun _ _ =>
  (block_reads forth).within.bind fun _ => node_onward rfl

theorem modifiedMember_onward (forth : g.Forth) : Onward (Carries lo (key :: stack)) (modifiedMember g start key static) fun n =>
    Carries lo (n :: stack) := by
  unfold modifiedMember
  extract_lets accessor modifier behind
  -- A word that says what a member is gives way to its key.
  have goes (accessor : Option MethodKind) : Onward (Carries lo (key :: stack)) (behind accessor) fun n =>
      Carries lo (n :: stack) := by
    cases accessor with
    | some kind =>
      exact ((memberKey_reads forth).bind fun key => noteAt_rests.when (classMethod_onward forth)).given
        (fun _ => Carries.drop)
    | none =>
      refine isAtFieldEnd_keeps.bind fun _ => .ite (fun _ => classField_onward forth) fun _ => newlineBefore_keeps.bind fun _ => ?_
      refine .ite (fun _ => eat_keeps.bind fun generator => ?_) fun _ => unexpected_onward
      exact ((memberKey_reads forth).bind fun key => failAt_rests.when (classMethod_onward forth)).given
        (fun _ => Carries.drop)
  refine newlineBefore_keeps.bind fun _ => isAt_keeps.bind fun _ => isAtFieldEnd_keeps.bind fun _ => ?_
  exact .ite (fun _ => (Keeps.pure _).bind goes) fun _ => (Keeps.pure _).bind goes

theorem memberFrom_reads (forth : g.Forth) : Reads (memberFrom g start static) := fun lo stack => by
  refine isAtMark_keeps.bind fun _ => .ite (fun _ => staticBlock_reads forth lo stack) fun _ => eat_keeps.bind fun _ => ?_
  refine .ite (fun _ => ?_) fun _ => (memberKey_reads forth).bind fun key => isAtMark_keeps.bind fun _ => ?_
  · exact (memberKey_reads forth).bind fun key => noteHere_rests.when (classMethod_onward forth)
  refine .ite (fun _ => .ite (fun _ => ?_) fun _ => classMethod_onward forth) fun _ => modifiedMember_onward forth
  exact Onward.bind (classConstructor_onward forth) fun found => noteAt_rests.when (.pure fun _ => id)

theorem member_reads (forth : g.Forth) : Reads (member g) := fun lo stack => by
  refine position_keeps.bind fun start => eat_keeps.bind fun _ => .ite (fun _ => ?_) fun _ => memberFrom_reads forth lo stack
  refine (otherName_onward (by decide)).bind fun key => ?_
  refine isAtMark_keeps.bind fun _ => .ite (fun _ => classMethod_onward forth) fun _ => isAtFieldEnd_keeps.bind fun _ => ?_
  exact .ite (fun _ => classField_onward forth) fun _ => (memberFrom_reads forth lo stack).given fun _ => Carries.drop

theorem members_reads (forth : g.Forth) : ReadsAll (members g) := fun lo stack => by
  refine .loop (I := fun (state : List Node × Bool) => Carries lo (state.1 ++ stack)) fun (found, constructed) => ?_
  refine isAtEnd_keeps.bind fun _ => isAtMark_keeps.bind fun _ => .ite (fun _ => .pure fun _ => Carries.reversed) fun _ => ?_
  refine eatMark_keeps.bind fun _ => .ite (fun _ => ?_) fun _ => ?_
  · refine lastStart_rests.bind fun _ => lastEnd_rests.bind fun _ => ?_
    exact .pure fun _ => Carries.leaf rfl
  · exact (member_reads forth).within.bind fun one => noteAt_rests.when (.pure fun _ => id)

theorem furtherSuperclasses_keeps (forth : g.Forth) : Keeps (furtherSuperclasses g) := fun lo stack => by
  refine .loop (I := fun _ => Carries lo stack) fun _ => isAtWord_keeps.bind fun _ => .ite (fun _ => ?_) fun _ => .pure fun _ => id
  refine noteHere_rests.bind fun _ => advance_keeps.bind fun _ => forth.leftHand.bind fun _ => .pure fun _ => Carries.drop

/-- The superclass of a class is read in front of its members. -/
theorem class_onward {kind : Kind} {name base : Node} {found : List Node}
    (heir : kind = .classExpression ∨ kind = .classDeclaration) :
    Onward (Carries lo (found.reverse ++ base :: name :: stack)) (node kind start (name :: (found ++ [base]))) fun n =>
      Carries lo (n :: stack) := by
  have gathered : Node.gathers kind = true := by rcases heir with rfl | rfl <;> rfl
  refine (node_onward gathered).given fun _ carries => ?_
  rw [Node.written_heir heir]
  simpa using carries

theorem classFrom_reads (forth : g.Forth) : Reads (classFrom g declaration) := by
  refine Reads.within fun lo stack => position_keeps.bind fun start => expectWord_keeps.bind fun _ => ?_
  refine bindingName?_reads.bind fun name => eatWord_keeps.bind fun _ => ?_
  extract_lets behind
  have goes (base : Node) : Onward (Carries lo (base :: name :: stack)) (behind base) fun n => Carries lo (n :: stack) := by
    refine expect_keeps.bind fun _ => (members_reads forth).bind fun found => isAtEnd_keeps.bind fun _ => ?_
    extract_lets whole
    have ends (u : Unit) : Onward (Carries lo (found.reverse ++ base :: name :: stack)) (whole u) fun n =>
        Carries lo (n :: stack) := class_onward (by cases declaration <;> simp)
    exact .ite (fun _ => noteHere_rests.bind ends) fun _ => expect_keeps.bind ends
  refine .ite (fun _ => forth.leftHand.bind fun base => ?_) fun _ => absent_reads.bind goes
  exact (furtherSuperclasses_keeps forth).bind fun _ => Onward.bind (.pure fun _ => id) goes

end Bundler.Script.Parse
