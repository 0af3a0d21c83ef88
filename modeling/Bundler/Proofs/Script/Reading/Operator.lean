import Bundler.Proofs.Script.Reading.Expression

/-!
Operators and assignments go forth. Where an operand fails to be read and the reading goes on, there is a problem.
-/

namespace Bundler.Script.Parse

open Reader
open Node (Beneath)

variable {g : Grammar} {lo start precedence : Nat} {stack : List Node} {statement : Bool} {left : Node} {op : AssignOp}

/-! ### Operators -/

theorem awaitOperand_reads (forth : g.Forth) : Reads (awaitOperand g statement start) := fun lo stack => by
  refine isAt_keeps.bind fun _ => Rests.when (fun _ => failHere_onward) (.surroundings fun context => place_rests.bind fun here => ?_)
  extract_lets operand parameter
  have goes (u : Unit) : Onward (Carries lo stack) (parameter u) fun n => Carries lo (n :: stack) :=
    noteAt_rests.when (forth.unary.bind fun inner => node_onward rfl)
  refine .ite (fun _ => ?_) fun _ => goes ()
  refine isAtMark_keeps.bind fun _ => isAtMark_keeps.bind fun _ => isAtMark_keeps.bind fun _ => isAtSemicolon_keeps.bind fun _ => ?_
  refine .ite (fun _ => .pure fun _ => Carries.otherName (by decide)) fun _ => .ite (fun _ => noteHere_rests.bind goes) fun _ => ?_
  exact noteAt_rests.when (goes ())

theorem awaitExpression_reads (forth : g.Forth) : Reads (awaitExpression g statement) := fun lo stack =>
  position_keeps.bind fun _ => advance_keeps.bind fun _ => awaitOperand_reads forth lo stack

theorem unary_reads (forth : g.Forth) : Reads (unary g) := fun lo stack => by
  refine position_keeps.bind fun start => token?_keeps.bind fun token => ?_
  split
  · refine advance_keeps.bind fun _ => forth.unary.bind fun inner => (checkReference_rests inner).bind fun _ => ?_
    exact mk_onward rfl
  split
  · refine advance_keeps.bind fun _ => position_keeps.bind fun behind => Onward.bind (forth.unary lo stack).attempt fun result => ?_
    cases result with
    | ok inner => exact (mk_onward rfl).given fun _ given => given inner rfl
    | error e => exact Onward.bind (.note (S := fun _ _ => False)) fun _ => .pure fun _ => False.elim
  refine isAtWord_keeps.bind fun _ => .ite (fun _ => awaitExpression_reads forth lo stack) fun _ => ?_
  refine (leftHand_reads forth).bind fun found => .ite (fun _ => .pure fun _ => id) fun _ => ?_
  refine newlineBefore_keeps.bind fun _ => .ite (fun _ => .pure fun _ => id) fun _ => token?_keeps.bind fun token => ?_
  split
  · exact (checkReference_rests found).bind fun _ => advance_keeps.bind fun _ => node_onward rfl
  · exact .pure fun _ => id

theorem binaryOp?_keeps : Keeps binaryOp? := .surroundings fun _ => soft?_keeps.seq fun token => by
  split
  · exact .pure _
  · exact .pure _
  · exact .pure _
  · exact .pure _

theorem checkMixing_rests (whole : Node) : Rests (checkMixing whole) := fun P => by
  unfold checkMixing
  split
  · extract_lets right
    have goes (u : Unit) : Onward P (right u) fun _ => P := by
      unfold right
      split
      · exact noteAt_rests P
      · exact .pure fun _ => id
    split
    · exact noteAt_rests.bind goes
    · exact (Rests.pure ()).bind goes
  · exact noteAt_rests.last P
  · exact .pure fun _ => id

theorem operators_onward (forth : g.Forth) : Onward (Carries lo (left :: stack)) (operators g left precedence) fun n =>
    Carries lo (n :: stack) := by
  refine .loop (I := fun n => Carries lo (n :: stack)) fun left => binaryOp?_keeps.bind fun found => ?_
  cases found with
  | none => exact .pure fun _ => id
  | some op =>
    refine .ite (fun _ => .pure fun _ => id) fun _ => advance_keeps.bind fun _ => ?_
    extract_lets isUnary
    refine Rests.when (fun _ => failHere_onward) (forth.unary.bind fun operand => ?_)
    refine Onward.bind (forth.operators operand _ lo (left :: stack)) fun right => ?_
    refine (checkMixing_rests _).bind fun _ => .pure fun r carries => ?_
    change Carries lo (_ :: stack) r
    exact Carries.node rfl carries

theorem operation_reads (forth : g.Forth) : Reads (operation g) := fun lo stack => by
  refine .surroundings fun context => Onward.bind (unary_reads forth lo stack).attempt fun result => ?_
  extract_lets behind
  have goes (left : Node) : Onward (Carries lo (left :: stack)) (behind left) fun n => Carries lo (n :: stack) :=
    .ite (fun _ => .pure fun _ => id) fun _ => forth.operators left 0 lo stack
  cases result with
  | ok left => exact Onward.bind (.pure fun _ given => given left rfl) goes
  | error e =>
    refine Onward.bind (require_keeps lo stack).blind fun token => ?_
    extract_lets broken
    have fails (isOperator : Bool) : Onward (fun _ => True) (broken isOperator) fun n => Carries lo (n :: stack) := by
      refine Rests.fail.when (place_rests.bind fun here => noteHere_onward.bind fun _ => ?_)
      exact Onward.bind (.pure fun _ => False.elim) goes
    split
    · exact (Rests.pure _).bind fails
    · exact (Rests.pure _).bind fails
    · exact (Rests.pure _).bind fails
    · exact (Rests.pure _).bind fails

theorem conditional_reads (forth : g.Forth) : Reads (conditional g) := fun lo stack => by
  refine position_keeps.bind fun start => (operation_reads forth).bind fun test => .ite (fun _ => .pure fun _ => id) fun _ => ?_
  refine eatMark_keeps.bind fun _ => .ite (fun _ => forth.assignment.within.bind fun yes => ?_) fun _ => .pure fun _ => id
  exact expect_keeps.bind fun _ => forth.assignment.bind fun no => mk_onward rfl

/-! ### Assignments -/

theorem assignmentTarget_onward (forth : g.Forth) : Onward (Carries lo (left :: stack)) (assignmentTarget g op left) fun n =>
    Carries lo (n :: stack) := by
  refine .ite (fun _ => (forth.pattern .target left).bind fun target => ?_) fun _ => .surroundings fun context => ?_
  · have again : ∀ r, Carries lo (left :: stack) r ∧ Beneath [target] [left] → Carries lo (target :: stack) r :=
      fun r given => Carries.beneath given.2 given.1
    split
    · exact .pure again
    · exact .pure again
    · exact .pure again
    · exact .pure again
    · exact .pure again
    · exact .pure again
    · exact .pure again
    · exact .pure again
    · exact failAt_onward
  · refine noteAt_rests.when ?_
    split
    · exact .pure fun _ => id
    · exact .pure fun _ => id
    · exact .pure fun _ => id
    · exact .pure fun _ => id
    · exact .pure fun _ => id
    · exact failAt_onward

theorem yieldExpression_reads (forth : g.Forth) : Reads (yieldExpression g) := fun lo stack => by
  refine position_keeps.bind fun start => advance_keeps.bind fun _ => .surroundings fun context => ?_
  extract_lets operand behind
  have goes (ended : Bool) : Onward (Carries lo stack) (operand ended) fun n => Carries lo (n :: stack) := by
    refine .ite (fun _ => eat_keeps.bind fun _ => forth.assignment.bind fun inner => node_onward rfl) fun _ => ?_
    exact (node_onward rfl).given fun _ => Carries.absent
  refine .ite (fun _ => lastStart_rests.bind fun _ => failAt_onward) fun _ => isAtSemicolon_keeps.bind fun _ => ?_
  refine .ite (fun _ => (Keeps.pure _).bind goes) fun _ => isAt_keeps.bind fun _ => isAt_keeps.bind fun _ => ?_
  exact isAt_keeps.bind fun _ => .ite (fun _ => (Keeps.pure _).bind goes) fun _ => soft?_keeps.bind fun _ => (Keeps.pure _).bind goes

theorem assignment_reads (forth : g.Forth) : Reads (assignment g) := fun lo stack => by
  refine .surroundings fun context => isAtWord_keeps.bind fun _ => .ite (fun _ => yieldExpression_reads forth lo stack) fun _ => ?_
  refine require_keeps.bind fun token => ?_
  extract_lets behind
  have goes (arrowStart : Option Nat) : Onward (Carries lo stack) (behind arrowStart) fun n => Carries lo (n :: stack) := by
    refine (modify_keeps ?_).bind fun _ => position_keeps.bind fun start => (conditional_reads forth).bind fun left => ?_
    · exact fun _ => ⟨rfl, rfl, rfl, rfl, rfl⟩
    split
    · exact .pure fun _ => id
    · exact .pure fun _ => id
    · exact .pure fun _ => id
    · exact .pure fun _ => id
    · exact .pure fun _ => id
    · refine soft?_keeps.bind fun token => ?_
      split
      · refine Onward.bind (assignmentTarget_onward forth) fun target => advance_keeps.bind fun _ => ?_
        exact forth.assignment.bind fun value => node_onward rfl
      · exact .pure fun _ => id
  split
  · exact position_keeps.bind fun _ => (Keeps.pure _).bind goes
  · exact position_keeps.bind fun _ => (Keeps.pure _).bind goes
  · exact position_keeps.bind fun _ => (Keeps.pure _).bind goes
  · exact (Keeps.pure _).bind goes

end Bundler.Script.Parse
