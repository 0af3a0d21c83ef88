import Bundler.Proofs.Script.Tape

/-!
Expressions without operators: names, strings, properties of names, and calls of them, read from their tokens.
-/

namespace Bundler.Script.Parse

variable {g : Grammar} {context : Context} {tape middle left : Tape} {object found : Node} {name property : String}
  {value raw : String} {more : List Lexeme} {calls : Bool} {start stop lo hi steps : Nat} {newline : Bool}
  {arrowStart arrowStart' : Option Nat} {next : Lexeme} {rest : List Lexeme} {lo' hi' : Nat}

/-- Whether a token ends an operand; behind one that is not called, a parenthesis does. -/
inductive Ends : (calls : Bool) → Token → Prop
  | semicolon {calls : Bool} : Ends calls (.mark .semicolon)
  | closeParen {calls : Bool} : Ends calls (.mark .closeParen)
  | equals {calls : Bool} : Ends calls (.assign .plain)
  | openParen : Ends false (.mark .openParen)

theorem Ends.of_called {token : Token} (ends : Ends true token) : Ends calls token := by
  cases ends with
  | semicolon => exact .semicolon
  | closeParen => exact .closeParen
  | equals => exact .equals

theorem Ends.not_openParen {token : Token} (ends : Ends true token) : token ≠ .mark .openParen := by
  rintro rfl
  cases ends

/-- Whether a name may stand for a variable and starts nothing else. -/
def Ordinary (context : Context) (name : String) : Prop :=
  context.reserves name = false ∧ name ∉ ["async", "arguments", "enum"]

/-- Whether an operand is a name, a string, a property or a call, outside of an optional chain. -/
inductive Plain : Node → Prop
  | name {text : String} {start stop : Nat} {below : List Node} : Plain (.mk (.name text) start stop below)
  | string {value : String} {raw : Option String} {start stop : Nat} {below : List Node} :
    Plain (.mk (.string value raw) start stop below)
  | member {start stop : Nat} {below : List Node} : Plain (.mk .member start stop below)
  | call {start stop : Nat} {below : List Node} : Plain (.mk .call start stop below)

/-! ### Names and strings -/

theorem identifier_parses (allowYield allowAwait : Bool) (ordinary : Ordinary context name) :
    Parses (identifier allowYield allowAwait) context
      ⟨⟨.ident name, start, stop, newline⟩ :: more, lo, hi, arrowStart, steps + 2⟩ (.mk (.name name) start stop [])
      ⟨more, start, stop, arrowStart, steps + 2⟩ := by
  have noEnum : (name == "enum") = false := beq_eq_false_iff_ne.mpr fun same => ordinary.2 (by simp [same])
  have noArguments : (name == "arguments") = false := beq_eq_false_iff_ne.mpr fun same => ordinary.2 (by simp [same])
  refine (position_parses context).bind (.surroundings ((require_parses context (by nofun)).bind ?_))
  refine (advance_parses context).bind ?_
  simp only [noEnum, noArguments, Bool.false_and, Bool.false_eq_true, if_false]
  exact node_parses _ _ _ _ _

theorem nameOrArrow_parses (g : Grammar) (canBeArrow : Bool) (ordinary : Ordinary context name)
    (follows : next.token ≠ .mark .arrow) :
    Parses (nameOrArrow g start canBeArrow) context
      ⟨⟨.ident name, start, stop, newline⟩ :: next :: more, lo, hi, arrowStart, steps + 2⟩ (.mk (.name name) start stop [])
      ⟨next :: more, start, stop, arrowStart, steps + 2⟩ := by
  refine (Parses.surroundings (identifier_parses _ _ ordinary)).bind ?_
  cases canBeArrow with
  | false => exact .pure _ _ _
  | true =>
    have noAsync : (Node.mk (.name name) start stop []).kind ≠ .name "async" :=
      fun same => ordinary.2 (by cases same; simp)
    simp only [Bool.not_true, Bool.false_eq_true, if_false]
    refine (newlineBefore_parses context).bind ?_
    simp only [noAsync, decide_false, Bool.false_and, Bool.false_eq_true, if_false]
    split
    · exact .pure _ _ _
    · exact (eat_other context follows).bind (.pure _ _ _)

theorem primary_name (g : Grammar) (ordinary : Ordinary context name) (follows : next.token ≠ .mark .arrow) :
    Parses (primary g) context
      ⟨⟨.ident name, start, stop, newline⟩ :: next :: more, lo, hi, arrowStart, steps + 2⟩ (.mk (.name name) start stop [])
      ⟨next :: more, start, stop, arrowStart, steps + 2⟩ := by
  have noAsync : (name == "async") = false := beq_eq_false_iff_ne.mpr fun same => ordinary.2 (by simp [same])
  refine (position_parses context).bind (.state fun r _ => (token?_parses context).bind ?_)
  simp only [Option.getD_some, noAsync, Bool.false_eq_true, if_false]
  have bindable : Parses isAtBindable context
      ⟨⟨.ident name, start, stop, newline⟩ :: next :: more, lo, hi, arrowStart, steps + 2⟩ true
      ⟨⟨.ident name, start, stop, newline⟩ :: next :: more, lo, hi, arrowStart, steps + 2⟩ := by
    refine .surroundings ((token?_parses context).bind ?_)
    simp only [ordinary.1, Bool.not_false]
    exact .pure _ _ _
  refine bindable.bind ?_
  exact nameOrArrow_parses g _ ordinary follows

theorem primary_string (g : Grammar) : Parses (primary g) context
    ⟨⟨.string value raw, start, stop, newline⟩ :: more, lo, hi, arrowStart, steps + 2⟩
    (.mk (.string value (some raw)) start stop []) ⟨more, start, stop, arrowStart, steps + 2⟩ :=
  (position_parses context).bind (.state fun _ _ => (token?_parses context).bind ((advance_parses context).bind
    (node_parses _ _ _ _ _)))

/-! ### Properties and calls -/

theorem isChain_of_plain (plain : Plain object) : isChain object = false := by
  unfold isChain
  split
  · next same => cases plain <;> cases same
  · next same => cases plain <;> cases same
  · rfl

/-- Nothing is added to an operand at a token that ends it. -/
theorem subscript_last (g : Grammar) (plain : Plain object) (ends : Ends calls next.token) :
    Parses (subscript g calls object) context ⟨next :: more, lo, hi, arrowStart, steps + 2⟩ (.inr object)
      ⟨next :: more, lo, hi, arrowStart, steps + 2⟩ := by
  obtain ⟨token, start, stop, newline⟩ := next
  have uncalled : ∃ here, (calls && here) = false ∧ Parses (isAtMark .openParen) context
      ⟨⟨token, start, stop, newline⟩ :: more, lo, hi, arrowStart, steps + 2⟩ here
      ⟨⟨token, start, stop, newline⟩ :: more, lo, hi, arrowStart, steps + 2⟩ := by
    cases ends with
    | openParen => exact ⟨true, rfl, isAt_same context⟩
    | _ => exact ⟨false, Bool.and_false _, isAt_other context (by nofun)⟩
  obtain ⟨here, uncalled, seen⟩ := uncalled
  cases ends with
  | _ =>
    refine (token?_parses context).bind ?_
    refine (Parses.not_both (isAt_other context (by nofun))).bind ?_
    refine (Parses.not_both (.pure false _ _)).bind ?_
    refine (isAt_other context (by nofun)).bind ?_
    refine (Parses.not_both (.pure false _ _)).bind ?_
    refine seen.bind ?_
    rw [Bool.false_or, uncalled]
    refine (eat_other context (by nofun)).bind ?_
    rw [if_neg Bool.false_ne_true]
    split
    · next same => cases plain <;> cases same
    · next same => cases plain <;> cases same
    · exact (isAt_other context (by nofun)).bind (.pure _ _ _)

theorem word_parses (context : Context) : Parses word context
    ⟨⟨.ident name, start, stop, newline⟩ :: more, lo, hi, arrowStart, steps + 2⟩ (.mk (.name name) start stop [])
    ⟨more, start, stop, arrowStart, steps + 2⟩ :=
  (position_parses context).bind ((require_parses context (by nofun)).bind ((advance_parses context).bind
    (node_parses _ _ _ _ _)))

theorem propertyOf_parses {property : Node} (plain : Plain object) (context : Context) (tape : Tape) :
    Parses (propertyOf object property false) context tape (.mk .member object.lo tape.hi [object, property]) tape := by
  unfold propertyOf
  split
  · next same => cases plain <;> cases same
  · next same => cases plain <;> cases same
  · rw [isChain_of_plain plain]
    exact node_parses _ _ _ _ _

theorem subscript_property (g : Grammar) (plain : Plain object) {dotStart dotStop : Nat}
    {dotNewline : Bool} : Parses (subscript g calls object) context
      ⟨⟨.mark .dot, dotStart, dotStop, dotNewline⟩ :: ⟨.ident property, start, stop, newline⟩ :: more, lo, hi,
        arrowStart, steps + 2⟩
      (.inl (.mk .member object.lo stop [object, .mk (.name property) start stop []]))
      ⟨more, start, stop, arrowStart, steps + 2⟩ := by
  refine (token?_parses context).bind ?_
  refine (Parses.not_both (isAt_other context (by nofun))).bind ?_
  refine (Parses.not_both (.pure false _ _)).bind ?_
  refine (isAt_other context (by nofun)).bind ?_
  refine (Parses.not_both (.pure false _ _)).bind ?_
  refine (isAt_other context (by nofun)).bind ?_
  rw [Bool.and_false]
  refine Parses.bind (eat_same context) ?_
  refine (isAt_other context (by nofun)).bind ?_
  exact (word_parses context).bind ((propertyOf_parses plain context _).bind (.pure _ _ _))

theorem subscripts_none (g : Grammar) (plain : Plain object) (ends : Ends calls next.token) :
    Parses (subscripts g calls object) context ⟨next :: more, lo, hi, arrowStart, steps + 2⟩ object
      ⟨next :: more, lo, hi, arrowStart, steps + 2⟩ :=
  loop_parses (repeatFrom_last _ (subscript_last g plain ends))

theorem subscripts_property (g : Grammar) (plain : Plain object) {dotStart dotStop : Nat}
    {dotNewline : Bool} (ends : Ends calls next.token) : Parses (subscripts g calls object) context
      ⟨⟨.mark .dot, dotStart, dotStop, dotNewline⟩ :: ⟨.ident property, start, stop, newline⟩ :: next :: more, lo, hi,
        arrowStart, steps + 2⟩
      (.mk .member object.lo stop [object, .mk (.name property) start stop []])
      ⟨next :: more, start, stop, arrowStart, steps + 2⟩ :=
  loop_parses (repeatFrom_more _ _ (subscript_property g plain) (repeatFrom_last _ (subscript_last g .member ends)))

/-! ### Operands -/

/-- The tokens that an operand starts with. -/
inductive Starts : Token → Prop
  | name (name : String) : Starts (.ident name)
  | string (value raw : String) : Starts (.string value raw)

theorem Starts.ne_keyword {token : Token} (starts : Starts token) (word : Keyword) : token ≠ .keyword word := by
  rintro rfl
  cases starts

theorem Starts.ne_mark {token : Token} (starts : Starts token) (m : Mark) : token ≠ .mark m := by
  rintro rfl
  cases starts

theorem isArrow_of_plain (plain : Plain object) : isArrow object = false := by
  unfold isArrow
  split
  · next same => cases plain <;> cases same
  · rfl

theorem newExpression_parses {first : Lexeme} (starts : Starts first.token) (plain : Plain object)
    (operand : Parses (primary g) context ⟨first :: more, lo, hi, arrowStart, steps + 2⟩ object middle)
    (links : Parses (subscripts g false object) context middle found left) :
    Parses (newExpression g) context ⟨first :: more, lo, hi, arrowStart, steps + 2⟩ found left := by
  refine (position_parses context).bind ?_
  refine (eat_other context (starts.ne_keyword _)).bind ?_
  refine (eat_other context (starts.ne_keyword _)).bind ?_
  refine (eat_other context (starts.ne_keyword _)).bind ?_
  refine operand.bind ?_
  rw [isArrow_of_plain plain]
  exact links

theorem newExpression_string (g : Grammar) (ends : Ends false next.token) : Parses (newExpression g) context
    ⟨⟨.string value raw, start, stop, newline⟩ :: next :: more, lo, hi, arrowStart, steps + 2⟩
    (.mk (.string value (some raw)) start stop []) ⟨next :: more, start, stop, arrowStart, steps + 2⟩ :=
  newExpression_parses (.string _ _) .string (primary_string g)
    (subscripts_none g .string ends)

/-- A property of a variable. -/
theorem newExpression_property (g : Grammar) {dotStart dotStop start' stop' : Nat} {dotNewline newline' : Bool}
    (ordinary : Ordinary context name) (ends : Ends false next.token) : Parses (newExpression g) context
      ⟨⟨.ident name, start, stop, newline⟩ :: ⟨.mark .dot, dotStart, dotStop, dotNewline⟩ ::
        ⟨.ident property, start', stop', newline'⟩ :: next :: more, lo, hi, arrowStart, steps + 2⟩
      (.mk .member start stop' [.mk (.name name) start stop [], .mk (.name property) start' stop' []])
      ⟨next :: more, start', stop', arrowStart, steps + 2⟩ :=
  newExpression_parses (.name _) .name (primary_name g ordinary (by nofun))
    (subscripts_property g .name ends)

theorem leftHand_parses {first : Lexeme} (starts : Starts first.token) (plain : Plain found)
    (callee : Parses (newExpression g) context ⟨first :: more, lo, hi, arrowStart, steps + 2⟩ found
      ⟨next :: rest, lo', hi', arrowStart', steps + 2⟩) (ends : Ends true next.token) :
    Parses (leftHand g) context ⟨first :: more, lo, hi, arrowStart, steps + 2⟩ found
      ⟨next :: rest, lo', hi', arrowStart', steps + 2⟩ := by
  have noNew : found.kind ≠ .new false := by cases plain <;> nofun
  refine (position_parses context).bind ?_
  refine (eat_other context (starts.ne_keyword _)).bind ?_
  refine (eat_other context (starts.ne_keyword _)).bind ?_
  refine callee.bind ?_
  rw [isArrow_of_plain plain, decide_eq_false noNew]
  exact (isAt_other context ends.not_openParen).bind (.pure _ _ _)

/-! ### Expressions -/

/-- No operator stands at a token that ends an operand. -/
theorem operators_parses (g : Grammar) (precedence : Nat) (ends : Ends true next.token) :
    Parses (operators g object precedence) context ⟨next :: more, lo, hi, arrowStart, steps + 2⟩ object
      ⟨next :: more, lo, hi, arrowStart, steps + 2⟩ := by
  obtain ⟨token, start, stop, newline⟩ := next
  have none : Parses binaryOp? context ⟨⟨token, start, stop, newline⟩ :: more, lo, hi, arrowStart, steps + 2⟩ none
      ⟨⟨token, start, stop, newline⟩ :: more, lo, hi, arrowStart, steps + 2⟩ := by
    refine .surroundings ((soft?_parses context (by rintro e rfl; cases ends)).bind ?_)
    cases ends with
    | _ => exact .pure _ _ _
  exact loop_parses (repeatFrom_last _ (none.bind (.pure _ _ _)))

variable {first : Lexeme}

theorem unary_parses (starts : Starts first.token) (plain : Plain found) (ends : Ends true next.token)
    (hand : Parses (leftHand g) context ⟨first :: more, lo, hi, arrowStart, steps + 2⟩ found
      ⟨next :: rest, lo', hi', arrowStart', steps + 2⟩) :
    Parses (unary g) context ⟨first :: more, lo, hi, arrowStart, steps + 2⟩ found
      ⟨next :: rest, lo', hi', arrowStart', steps + 2⟩ := by
  obtain ⟨token, start, stop, newline⟩ := first
  obtain ⟨token', start', stop', newline'⟩ := next
  refine (position_parses context).bind ((token?_parses context).bind ?_)
  cases starts with
  | _ =>
    refine (isAt_other context (by nofun)).bind ?_
    refine hand.bind ?_
    rw [isArrow_of_plain plain]
    refine (newlineBefore_parses context).bind ?_
    cases newline' with
    | true => exact .pure _ _ _
    | false =>
      refine (token?_parses context).bind ?_
      cases ends with
      | _ => exact .pure _ _ _

/-- An operand that no operator follows is an expression. -/
theorem conditional_parses (starts : Starts first.token) (plain : Plain found)
    (ends : Ends true next.token)
    (hand : Parses (leftHand g.step) context ⟨first :: more, lo, hi, arrowStart, steps + 2⟩ found
      ⟨next :: rest, lo', hi', arrowStart', steps + 2⟩) :
    Parses (conditional g.step) context ⟨first :: more, lo, hi, arrowStart, steps + 2⟩ found
      ⟨next :: rest, lo', hi', arrowStart', steps + 2⟩ := by
  have operation : Parses (operation g.step) context ⟨first :: more, lo, hi, arrowStart, steps + 2⟩ found
      ⟨next :: rest, lo', hi', arrowStart', steps + 2⟩ := by
    refine .surroundings ((Parses.attempt (unary_parses starts plain ends hand)).bind ((Parses.pure found _ _).bind ?_))
    simp only [isArrow_of_plain plain, Bool.false_eq_true, if_false]
    exact operators_parses g 0 ends
  refine (position_parses context).bind (operation.bind ?_)
  rw [isArrow_of_plain plain]
  exact (eat_other context (by intro same; rw [same] at ends; cases ends)).bind (.pure _ _ _)

/-- The place that an arrow function may start at, if an expression starts with a token. -/
def arrowStartAt (first : Lexeme) : Option Nat :=
  match first.token with
  | .ident _ => some first.lo
  | _ => none

theorem arrowStart_parses (context : Context) :
    Parses (do modify fun reader : Reader => { reader with arrowStart := arrowStartAt first }) context
      ⟨first :: more, lo, hi, arrowStart, steps + 2⟩ () ⟨first :: more, lo, hi, arrowStartAt first, steps + 2⟩ :=
  fun r holds => ⟨{ r with arrowStart := arrowStartAt first }, { holds with arrowStart := rfl }, rfl⟩

/-- An expression behind its first operand, into which something may be stored. -/
def storing (g : Grammar) (start : Nat) (target : Node) : Parse Node := do
  match ← soft? with
  | some (.assign op) =>
    let target ← assignmentTarget g op target
    advance
    let value ← g.assignment
    node (.assign op) start [target, value]
  | _ => return target

/-- An expression is its first operand and what is stored into it. -/
theorem assignment_parses {whole : Node} (calm : context.inGenerator = false) (starts : Starts first.token)
    (plain : Plain found) (ends : Ends true next.token)
    (hand : Parses (leftHand g.step) context ⟨first :: more, lo, hi, arrowStartAt first, steps + 2⟩ found
      ⟨next :: rest, lo', hi', arrowStart', steps + 2⟩)
    (stores : Parses (storing g.step first.lo found) context ⟨next :: rest, lo', hi', arrowStart', steps + 2⟩
      whole left) :
    Parses (assignment g.step) context ⟨first :: more, lo, hi, arrowStart, steps + 2⟩ whole left := by
  have left := conditional_parses starts plain ends hand
  obtain ⟨token, start, stop, newline⟩ := first
  refine .surroundings ?_
  cases starts with
  | string value raw =>
    refine (isAt_other context (by nofun)).bind ?_
    rw [calm]
    refine (require_parses context (by nofun)).bind ?_
    refine (Parses.pure none _ _).bind ?_
    refine (arrowStart_parses context).bind ?_
    refine (position_parses context).bind (left.bind ?_)
    cases plain with
    | _ => exact stores
  | name text =>
    refine (isAt_other context (by nofun)).bind ?_
    rw [calm]
    refine (require_parses context (by nofun)).bind ?_
    refine (position_parses context).bind ?_
    refine (Parses.pure (some start) _ _).bind ?_
    refine (arrowStart_parses context).bind ?_
    refine (position_parses context).bind (left.bind ?_)
    cases plain with
    | _ => exact stores

theorem storing_none (g : Grammar) (start : Nat) (ends : Ends true next.token) (final : next.token ≠ .assign .plain) :
    Parses (storing g start found) context ⟨next :: rest, lo, hi, arrowStart, steps + 2⟩ found
      ⟨next :: rest, lo, hi, arrowStart, steps + 2⟩ := by
  obtain ⟨token, _, _, _⟩ := next
  refine (soft?_parses context (by rintro e rfl; cases ends)).bind ?_
  cases ends with
  | equals => exact absurd rfl final
  | _ => exact .pure _ _ _

theorem patternOf_member (g : Grammar) (kind : found.kind = .member) (context : Context) (tape : Tape) :
    Parses (patternOf g .target found) context tape found tape := by
  obtain ⟨_, start, stop, children⟩ := found
  cases kind
  have reference : Parses (checkReference (.mk .member start stop children)) context tape () tape :=
    .surroundings (.pure () _ _)
  exact reference.bind (.pure _ _ _)

/-- A value is stored into a property. -/
theorem storing_value {value : Node} {equalsStart equalsStop : Nat} (start : Nat) (kind : found.kind = .member)
    (values : Parses g.step.assignment context ⟨rest, equalsStart, equalsStop, arrowStart, steps + 2⟩ value left) :
    Parses (storing g.step start found) context
      ⟨⟨.assign .plain, equalsStart, equalsStop, newline⟩ :: rest, lo, hi, arrowStart, steps + 2⟩
      (.mk (.assign .plain) start left.hi [found, value]) left := by
  have target : Parses (assignmentTarget g.step .plain found) context
      ⟨⟨.assign .plain, equalsStart, equalsStop, newline⟩ :: rest, lo, hi, arrowStart, steps + 2⟩ found
      ⟨⟨.assign .plain, equalsStart, equalsStop, newline⟩ :: rest, lo, hi, arrowStart, steps + 2⟩ := by
    refine (patternOf_member g kind context _).bind ?_
    rw [kind]
    exact .pure _ _ _
  refine (soft?_parses context (by nofun)).bind ?_
  exact target.bind ((advance_parses context).bind (values.bind (node_parses _ _ _ _ _)))

/-! ### Calls -/

variable {only : Node} {closeStart closeStop : Nat} {closeNewline : Bool}

theorem argument_parses (starts : Starts first.token)
    (inner : Parses g.assignment context ⟨first :: more, lo, hi, arrowStart, steps + 2⟩ only left) :
    Parses (argument g) context ⟨first :: more, lo, hi, arrowStart, steps + 2⟩ only left := by
  exact (position_parses context).bind ((eat_other context (starts.ne_mark _)).bind inner)

/-- An argument that stands alone between parentheses. -/
theorem arguments_parses (starts : Starts first.token)
    (inner : Parses g.assignment { context with allowIn := true } ⟨first :: more, start, stop, arrowStart, steps + 2⟩ only
      ⟨⟨.mark .closeParen, closeStart, closeStop, closeNewline⟩ :: rest, lo', hi', arrowStart', steps + 2⟩) :
    Parses (arguments g false) context
      ⟨⟨.mark .openParen, start, stop, newline⟩ :: first :: more, lo, hi, arrowStart, steps + 2⟩ [only]
      ⟨rest, closeStart, closeStop, arrowStart', steps + 2⟩ := by
  let closing : Tape :=
    ⟨⟨.mark .closeParen, closeStart, closeStop, closeNewline⟩ :: rest, lo', hi', arrowStart', steps + 2⟩
  refine (position_parses context).bind ?_
  refine (expect_parses context).bind ?_
  refine Parses.bind (a := [only]) (loop_parses (repeatFrom_more [only] closing ?_ (repeatFrom_last closing ?_))) ?_
  · refine (isAtEnd_parses context _).bind ((isAt_other context (starts.ne_mark _)).bind ?_)
    exact Parses.bind (Parses.within (argument_parses starts inner)) (.pure _ _ _)
  · refine (isAtEnd_parses context _).bind (Parses.bind (isAt_same context) ?_)
    exact .pure _ _ _
  · exact (expect_parses context).bind (.pure _ _ _)

/-- A function is called with an argument. -/
theorem leftHand_call {callee : Node} (starts : Starts first.token) (plain : Plain callee)
    (function : Parses (newExpression g) context ⟨first :: more, lo, hi, arrowStart, steps + 2⟩ callee middle)
    (opens : Parses (isAtMark .openParen) context middle true middle)
    (given : Parses (arguments g false) context middle [only] ⟨next :: rest, lo', hi', arrowStart', steps + 2⟩)
    (ends : Ends true next.token) :
    Parses (leftHand g) context ⟨first :: more, lo, hi, arrowStart, steps + 2⟩
      (.mk .call first.lo hi' [callee, only]) ⟨next :: rest, lo', hi', arrowStart', steps + 2⟩ := by
  have noNew : callee.kind ≠ .new false := by cases plain <;> nofun
  refine (position_parses context).bind ?_
  refine (eat_other context (starts.ne_keyword _)).bind ?_
  refine (eat_other context (starts.ne_keyword _)).bind ?_
  refine function.bind ?_
  rw [isArrow_of_plain plain, decide_eq_false noNew]
  refine opens.bind (given.bind ?_)
  rw [isChain_of_plain plain]
  exact (node_parses _ _ _ _ _).bind (subscripts_none g .call ends)

end Bundler.Script.Parse
