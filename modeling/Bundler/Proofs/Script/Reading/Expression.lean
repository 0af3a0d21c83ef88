import Bundler.Proofs.Script.Reading.Literal

/-!
Expressions go forth.
-/

namespace Bundler.Script.Parse

open Reader
open Node (Beneath)

variable {g : Grammar} {lo start : Nat} {stack : List Node} {comma : Option Nat} {canBeArrow calls : Bool} {arrow object : Node}

/-! ### Arrow functions and parentheses -/

theorem parametersOf_rereads (forth : g.Forth) (ns : List Node) : RereadsAll ns (parametersOf g comma ns) := by
  induction ns with
  | nil => exact fun P => .pure fun _ given => ⟨given, .refl _⟩
  | cons n rest ih =>
    intro P
    cases rest with
    | nil =>
      unfold parametersOf
      split
      · next inner spread parts =>
        extract_lets pattern comma'
        have goes (u : Unit) : Onward P (pattern u) fun ns' r => P r ∧ Beneath ns' [n] := by
          refine (forth.pattern .binding inner).bind fun n' => .pure fun _ ⟨given, beneath⟩ => ⟨given, .node rfl ?_⟩
          rw [spread, parts]
          exact beneath
        refine noteAt_rests.when ?_
        unfold comma'
        split
        · exact noteAt_rests.bind goes
        · exact goes ()
      · exact (forth.pattern .binding n).bind fun n' => .pure fun _ => id
    | cons second others =>
      unfold parametersOf
      refine .ite (fun _ => noteAt_rests.bind fun _ => ?_) fun _ => ?_
      · refine (ih P).gives fun ns' _ ⟨given, all⟩ => ⟨given, all.trans ?_⟩
        exact .of_sublist (List.sublist_cons_self _ _)
      · refine (forth.pattern .binding n).bind fun n' => (ih _).bind fun ns' => ?_
        exact .pure fun _ ⟨⟨given, one⟩, all⟩ => ⟨given, one.cons all⟩

/-- The parameter of an arrow function stays behind it where it had been left as an item before. -/
theorem arrowBeside_onward {body parameter : Node} {text : String} (named : parameter.kind = .name text) :
    Onward (Carries lo (body :: parameter :: stack)) (node (.arrow false) start [parameter, body]) fun n =>
      Carries lo (n :: parameter :: stack) := by
  refine lastEnd_rests.bind fun hi => .pure fun r carries => ?_
  have sub : (Node.mk (.arrow false) start hi [parameter, body]).heads.Sublist ([body].flatMap Node.heads) := by
    rw [Node.heads_eq_of_gathers rfl]
    have none := carries.plain parameter (by simp) text named
    simp [Node.written, none, Node.heads]
  exact Carries.fold sub (Node.plain_of_gathers rfl) carries

theorem parenItems_onward (forth : g.Forth) : Onward (Carries lo stack) (parenItems g) fun result =>
    Carries lo (result.1.reverse ++ stack) := by
  refine expect_keeps.bind fun _ => ?_
  refine Onward.bind (Q := fun (result : List Node × Option Nat) => Carries lo (result.1.reverse ++ stack)) ?_ fun result =>
    expect_keeps.bind fun _ => .pure fun _ => id
  refine .loop (I := fun (state : List Node × Option Nat) => Carries lo (state.1 ++ stack)) fun (found, comma) => ?_
  refine isAtEnd_keeps.bind fun _ => isAtMark_keeps.bind fun _ => .ite (fun _ => .pure fun _ => Carries.reversed) fun _ => ?_
  refine position_keeps.bind fun start => (modify_keeps fun _ => ?_).bind fun _ => (argument_reads forth).within.bind fun one => ?_
  · exact ⟨rfl, rfl, rfl, rfl, rfl⟩
  extract_lets items behind
  have goes (items : List Node) : Onward (Carries lo (items ++ stack)) (behind () items) fun result r =>
      result.elim (fun state => Carries lo (state.1 ++ stack) r) fun found => Carries lo (found.1.reverse ++ stack) r := by
    refine isAtMark_keeps.bind fun _ => .ite (fun _ => expect_keeps.bind fun _ => ?_) fun _ => .pure fun _ => id
    refine isAtMark_keeps.bind fun _ => .ite (fun _ => lastStart_rests.bind fun _ => ?_) fun _ => .pure fun _ => id
    exact .pure fun _ => id
  refine eatMark_keeps.bind fun _ => .ite (fun _ => ?_) fun _ => goes items
  cases found with
  | cons second others => exact goes items
  | nil =>
    dsimp only [items]
    split
    · next named => exact (arrowBody_reads forth).bind fun body => (arrowBeside_onward named).bind fun _ => goes _
    · exact goes items

theorem checkShorthands_rests (items : List Node) : Rests (checkShorthands items) := by
  refine Rests.forM items fun item _ P => .ite (fun _ => Rests.forM item.children (fun property _ P => ?_) P) fun _ => .pure fun _ => id
  split
  · exact noteAt_rests.last P
  · exact .pure fun _ => id

theorem afterArrow_onward (forth : g.Forth) : Onward (Carries lo (arrow :: stack)) (afterArrow g arrow) fun n =>
    Carries lo (n :: stack) := by
  refine .ite (fun _ => soft?_keeps.bind fun token => ?_) fun _ => .pure fun _ => id
  split
  · refine noteHere_rests.bind fun _ => Onward.bind (forth.operators arrow 0 lo stack) fun whole => ?_
    exact isAtSemicolon_keeps.bind fun _ => noteHere_rests.when (.pure fun _ => id)
  · exact .pure fun _ => id

/-- What parentheses hold, behind the word `async` or not. -/
theorem parens_onward (forth : g.Forth) (async : Option Node) : Onward (Carries lo (async.toList ++ stack)) (parens g canBeArrow async)
    fun n => Carries lo (n :: stack) := by
  unfold parens
  extract_lets behind
  have goes (start : Nat) (starts : ∀ word ∈ async, start = word.lo) :
      Onward (Carries lo (async.toList ++ stack)) (behind start) fun n => Carries lo (n :: stack) := by
    refine Onward.bind (parenItems_onward forth).within fun result => ?_
    obtain ⟨items, comma⟩ := result
    refine isAtMark_keeps.bind fun _ => .ite (fun _ => ?_) fun _ => ?_
    · refine newlineBefore_keeps.bind fun _ => failAt_rests.when (failAt_rests.when (expect_keeps.bind fun _ => ?_))
      refine (parametersOf_rereads forth items).bind fun found => ?_
      refine Onward.given (P := Carries lo (found.reverse ++ (async.toList ++ stack))) ?_
        (fun _ given => given.1.beneath given.2)
      refine (arrowBody_reads forth).bind fun body => ?_
      have arrow : Onward (Carries lo (body :: (found.reverse ++ (async.toList ++ stack))))
          (node (.arrow async.isSome) start (found ++ [body])) fun n => Carries lo (n :: stack) := by
        refine lastEnd_rests.bind fun hi => .pure fun r carries => ?_
        have whole : Carries lo (.mk (.arrow async.isSome) start hi (found ++ [body]) :: (async.toList ++ stack)) r :=
          Carries.node rfl (by simpa [Node.written] using carries)
        exact whole.sublist ((List.sublist_append_right _ _).cons_cons _)
      exact arrow.bind fun arrow => afterArrow_onward forth
    · refine (checkShorthands_rests items).bind fun _ => ?_
      cases async with
      | some word =>
        obtain rfl := starts word rfl
        exact call_onward (.inl rfl)
      | none =>
        dsimp only
        split
        · exact failAt_onward
        · split
          · exact failAt_onward
          · exact node_onward rfl
        · split
          · exact failAt_onward
          · -- Several expressions are one with commas.
            refine (node_onward rfl).given fun r carries => ?_
            change Carries lo (_ :: stack) r
            exact Carries.node rfl carries
  cases async with
  | some word =>
    refine goes word.lo fun other same => ?_
    cases same
    rfl
  | none =>
    refine position_keeps.bind fun start => goes start fun word absent => ?_
    cases absent

theorem nameOrArrow_reads (forth : g.Forth) : Reads (nameOrArrow g start canBeArrow) := fun lo stack => by
  refine reference_reads.bind fun name => .ite (fun _ => .pure fun _ => id) fun _ => newlineBefore_keeps.bind fun _ => ?_
  extract_lets arrow parameterArrow unchanged
  have parameterless (u : Unit) : Onward (Carries lo (name :: stack)) (arrow u) fun n => Carries lo (n :: stack) := by
    refine .ite (fun _ => .pure fun _ => id) fun _ => eatMark_keeps.bind fun _ => .ite (fun _ => ?_) fun _ => .pure fun _ => id
    exact (arrowBody_reads forth).bind fun body => node_onward rfl
  -- The word `async` is left behind and the name of the parameter takes its place.
  have parameter : Onward (Carries lo (name :: stack)) (parameterArrow ()) fun n => Carries lo (n :: stack) := by
    refine Onward.given (P := Carries lo stack) (bindingName_reads.bind fun parameter => ?_) (fun _ => Carries.drop)
    exact expect_keeps.bind fun _ => (arrowBody_reads forth).bind fun body => node_onward rfl
  refine .ite (fun _ => isAtMark_keeps.bind fun _ => .ite (fun _ => ?_) fun _ => ?_) fun _ => parameterless ()
  · exact parens_onward forth (some name)
  · refine isAtBindable_keeps.bind fun _ => .ite (fun _ => .surroundings fun context => ?_) fun _ => parameterless ()
    refine isAt_onward.bind fun isOf => .ite (fun both => ?_) fun _ => parameter.forget
    have isOf : isOf = true := (Bool.and_eq_true_iff.mp both).2
    refine Onward.given (isNextMark_carries.bind fun isArrow => .ite (fun _ => ?_) fun _ => parameter)
      (fun _ ⟨carries, known⟩ => ⟨carries, .of_token (known isOf) rfl⟩)
    exact noteLastIf_onward (.pure fun _ => id)

theorem noExpression_onward {Q : Node → Reader → Prop} : Onward (Carries lo stack) noExpression Q :=
  current_keeps.bind fun _ => failHere_onward

/-! ### Operands -/

theorem known_of_getD {token : Option Token} {known : Token} (same : token.getD .hashbang = known) (other : known ≠ .hashbang) :
    token = some known := by
  cases token with
  | none => exact absurd same.symm other
  | some token => exact congrArg some same

theorem primary_reads (forth : g.Forth) : Reads (primary g) := by
  refine Reads.positioned fun start => .state fun r => Onward.forget ?_
  extract_lets canBeArrow operand
  refine token?_onward.bind fun token => ?_
  split
  · exact (arrayLiteral_reads forth _ _).forget
  · exact (objectLiteral_reads forth _ _).forget
  · exact (parens_onward forth none).forget
  · exact (Onward.bind (template_onward forth) fun (pieces, found) => node_onward rfl).forget
  · refine (advance_keeps.bind fun _ => word_reads.bind fun key => ?_).forget
    split
    · exact (node_onward rfl).given fun _ => Carries.drop
    · exact noExpression_onward
  · exact (advance_keeps.bind fun _ => node_onward rfl).forget
  · exact (advance_keeps.bind fun _ => node_onward rfl).forget
  · exact (advance_keeps.bind fun _ => node_onward rfl).forget
  · next divide =>
    obtain rfl := known_of_getD divide (by decide)
    exact regexAt_onward ['/'] rfl
  · next divide =>
    obtain rfl := known_of_getD divide (by decide)
    exact regexAt_onward ['/', '='] rfl
  · exact (advance_keeps.bind fun _ => node_onward rfl).forget
  · exact (advance_keeps.bind fun _ => node_onward rfl).forget
  · exact (advance_keeps.bind fun _ => node_onward rfl).forget
  · exact (advance_keeps.bind fun _ => node_onward rfl).forget
  · exact (functionFrom_reads forth _ _).forget
  · exact (classFrom_reads forth _ _).forget
  · exact (nameOrArrow_reads forth _ _).forget
  · next name ident =>
    obtain rfl := known_of_getD ident nofun
    have goes : Onward (Carries start []) (operand ()) fun n => Carries start [n] :=
      isAtBindable_keeps.bind fun _ => .ite (fun _ => nameOrArrow_reads forth _ _) fun _ => noExpression_onward
    refine .ite (fun _ => ?_) fun _ => goes.forget
    refine Onward.posed (next?_posed.bind fun _ => newlineBeforeNext_onward.bind fun _ => ?_) rfl
    exact Onward.forget (.ite (fun _ => asyncFunction_reads forth _ _) fun _ => goes)
  · exact (isAtBindable_keeps.bind fun _ => .ite (fun _ => nameOrArrow_reads forth _ _) fun _ => noExpression_onward).forget
  · exact noExpression_onward.forget

theorem propertyOf_onward {property : Node} {optional : Bool} :
    Onward (Carries lo (property :: object :: stack)) (propertyOf object property optional) fun n => Carries lo (n :: stack) := by
  unfold propertyOf
  split
  · refine .surroundings fun context => Rests.when (fun _ => failHere_onward) ?_
    split
    · exact failHere_onward
    · exact node_onward rfl
  · refine noteAt_rests.bind fun _ => .ite (fun _ => ?_) fun _ => unexpected_onward
    exact (node_onward rfl).given fun _ carries => carries.drop.drop
  · exact .ite (fun _ => node_onward rfl) fun _ => node_onward rfl

/-- A reader that may be behind the first mark of an optional link, and is at a word or a mark then. -/
def Linking (optional : Bool) (lo : Nat) (stack : List Node) (r : Reader) : Prop :=
  Carries lo stack r ∧ (optional = true → r.Poised)

theorem optional_onward : Onward (Carries lo stack) (isAtMark .question <&&> isNextMark .dot) fun optional r =>
    Carries lo stack r ∧ (optional = true → Paired r) := by
  refine isAt_onward.bind fun question => ?_
  cases question with
  | false => exact .pure fun _ ⟨carries, _⟩ => ⟨carries, nofun⟩
  | true =>
    exact isNextMark_onward.weaken (fun _ ⟨carries, known⟩ => ⟨carries, .of_token (known rfl) rfl⟩)
      fun _ _ ⟨posed, paired⟩ => ⟨posed.1, paired⟩

theorem isNextMark_linking {m : Mark} {optional : Bool} :
    Onward (Linking optional lo stack) (pure optional <&&> isNextMark m) fun found r =>
      Linking optional lo stack r ∧ (found = true → Paired r) := by
  cases optional with
  | false => exact .pure fun _ linking => ⟨linking, nofun⟩
  | true =>
    exact isNextMark_onward.weaken (fun _ ⟨carries, poised⟩ => ⟨carries, poised rfl⟩)
      fun _ _ ⟨posed, paired⟩ => ⟨⟨posed.1, fun _ => posed.2⟩, paired⟩

theorem isAtMark_linking {m : Mark} {optional : Bool} :
    Onward (Linking optional lo stack) (isAtMark m) fun _ => Linking optional lo stack := by
  cases optional with
  | false => exact (isAtMark_keeps lo stack).weaken (fun _ => And.left) fun _ _ carries => ⟨carries, nofun⟩
  | true =>
    exact isAt_posed.weaken (fun _ ⟨carries, poised⟩ => ⟨carries, poised rfl⟩)
      fun _ _ ⟨carries, poised⟩ => ⟨carries, fun _ => poised⟩

theorem advance_linking {optional : Bool} : Onward (fun r => Carries lo stack r ∧ Paired r) advance fun _ => Linking optional lo stack :=
  advance_paired.gives fun _ _ ⟨carries, poised⟩ => ⟨carries, fun _ => poised⟩

/-- The operand that one more link has been put behind, or that has no more. -/
def Linked (lo : Nat) (stack : List Node) (result : Node ⊕ Node) (r : Reader) : Prop :=
  result.elim (fun n => Carries lo (n :: stack) r) fun n => Carries lo (n :: stack) r

theorem propertyLink_onward {property : Node} {optional : Bool} : Onward (Carries lo (property :: object :: stack))
    (do return .inl (← propertyOf object property optional)) (Linked lo stack) :=
  propertyOf_onward.bind fun _ => .pure fun _ => id

theorem subscript_onward (forth : g.Forth) : Onward (Carries lo (object :: stack)) (subscript g calls object) (Linked lo stack) := by
  unfold subscript
  extract_lets chain
  have chained (u : Unit) : Onward (Carries lo (object :: stack)) (chain u) (Linked lo stack) := by
    refine optional_onward.bind fun optional => ?_
    extract_lets property member bracket
    have keyed (key : Node) : Onward (Carries lo (key :: object :: stack)) (property key) (Linked lo stack) := propertyLink_onward
    have members (u : Unit) : Onward (Linking optional lo (object :: stack)) (member u) (Linked lo stack) := by
      refine isAtMark_linking.bind fun _ => .ite (fun _ => ?_) fun _ => isNextMark_linking.bind fun optionalCall => ?_
      · refine Onward.given (P := Carries lo (object :: stack)) ?_ (fun _ => And.left)
        refine position_keeps.bind fun start => advance_keeps.bind fun _ => (expression_reads forth).within.bind fun inner => ?_
        exact expect_keeps.bind fun _ => (node_onward rfl).bind fun property => propertyLink_onward
      · extract_lets call
        have called (u : Unit) : Onward (Carries lo (object :: stack)) (call u) (Linked lo stack) := by
          refine isAtMark_keeps.bind fun _ => .ite (fun _ => (arguments_reads forth).bind fun found => ?_) fun _ => ?_
          · refine .ite (fun _ => Rests.when (fun _ => failHere_onward) ?_) fun _ => ?_
            · exact Onward.bind (call_onward (.inr ⟨_, rfl⟩)) fun _ => .pure fun _ => id
            · exact Onward.bind (call_onward (.inl rfl)) fun _ => .pure fun _ => id
          · refine eatMark_keeps.bind fun _ => .ite (fun _ => isAtMark_keeps.bind fun _ => ?_) fun _ => ?_
            · exact .ite (fun _ => privateName_reads.bind keyed) fun _ => word_reads.bind keyed
            · split
              · exact failHere_onward
              · exact failHere_onward
              · refine isAtMark_keeps.bind fun _ => .ite (fun _ => ?_) fun _ => .pure fun _ => id
                refine Onward.bind (template_onward forth) fun found => noteAt_rests.when ?_
                exact Onward.bind (nodeOver_onward rfl rfl) fun _ => .pure fun _ => id
        refine Onward.given (P := Carries lo (object :: stack)) ?_ (fun _ given => given.1.1)
        exact .ite (fun _ => advance_keeps.bind called) fun _ => called ()
    have brackets (u : Unit) : Onward (Linking optional lo (object :: stack)) (bracket u) (Linked lo stack) := by
      refine isNextMark_linking.bind fun found => .ite (fun isNext => ?_) fun _ => (members ()).forget
      exact (advance_linking.bind members).given fun _ ⟨linking, paired⟩ => ⟨linking.1, paired isNext⟩
    refine .ite (fun isOptional => ?_) fun unlinked => ?_
    · exact (advance_linking.bind brackets).given fun _ ⟨carries, paired⟩ => ⟨carries, paired isOptional⟩
    · exact (brackets ()).given fun _ ⟨carries, _⟩ => ⟨carries, fun linked => absurd linked unlinked⟩
  refine token?_keeps.bind fun token => ?_
  split
  · exact advance_keeps.bind fun _ => Rests.fail.bind chained
  · exact chained ()

theorem subscripts_onward (forth : g.Forth) : Onward (Carries lo (object :: stack)) (subscripts g calls object) fun n =>
    Carries lo (n :: stack) := .loop (I := fun n => Carries lo (n :: stack)) fun _ => subscript_onward forth

theorem newExpression_reads (forth : g.Forth) : Reads (newExpression g) := fun lo stack => by
  refine position_keeps.bind fun start => eatWord_keeps.bind fun _ => .ite (fun _ => ?_) fun _ => ?_
  · refine eatMark_keeps.bind fun _ => .ite (fun _ => ?_) fun _ => forth.newExpression.bind fun callee => ?_
    · refine eat_keeps.bind fun _ => .ite (fun _ => unexpected_onward) fun _ => (node_onward rfl).bind fun found => ?_
      exact .surroundings fun context => noteAt_rests.when (subscripts_onward forth)
    · refine .ite (fun _ => .pure fun _ => id) fun _ => ?_
      extract_lets behind
      have goes (u : Unit) : Onward (Carries lo (callee :: stack)) (behind u) fun n => Carries lo (n :: stack) := by
        refine isAtMark_keeps.bind fun _ => .ite (fun _ => (arguments_reads forth).bind fun found => ?_) fun _ => node_onward rfl
        exact (nodeOver_onward rfl rfl).bind fun _ => subscripts_onward forth
      split
      · exact failAt_rests.bind goes
      · exact (Keeps.pure ()).bind goes
  refine eatWord_keeps.bind fun _ => .ite (fun _ => (node_onward rfl).bind fun _ => subscripts_onward forth) fun _ => ?_
  refine eatWord_keeps.bind fun _ => .ite (fun _ => (node_onward rfl).bind fun _ => subscripts_onward forth) fun _ => ?_
  exact (primary_reads forth).bind fun found => .ite (fun _ => .pure fun _ => id) fun _ => subscripts_onward forth

theorem leftHand_reads (forth : g.Forth) : Reads (leftHand g) := by
  refine Reads.positioned fun start => eatWord_keeps.bind fun _ => .ite (fun _ => ?_) fun _ => ?_
  · exact (node_onward rfl).bind fun _ => subscripts_onward forth
  refine eatWord_keeps.bind fun _ => .ite (fun _ => (node_onward rfl).bind fun _ => subscripts_onward forth) fun _ => ?_
  refine (newExpression_reads forth).bind fun callee => .ite (fun _ => .pure fun _ => id) fun _ => isAtMark_keeps.bind fun _ => ?_
  refine .ite (fun _ => (arguments_reads forth).bind fun found => ?_) fun _ => .pure fun _ => id
  refine Onward.bind (callFrom_onward ?_) fun _ => subscripts_onward forth
  cases isChain callee
  · exact .inl rfl
  · exact .inr ⟨false, rfl⟩

end Bundler.Script.Parse
