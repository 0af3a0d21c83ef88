import Bundler.Proofs.Script.Expression

/-!
Scripts of one statement that stores a value, read from their tokens.
-/

namespace Bundler.Script

namespace Parse

variable {g : Grammar} {context : Context} {tape left : Tape} {found : Node} {name : String}
  {more rest : List Lexeme} {start stop lo hi lo' hi' steps : Nat} {newline : Bool} {arrowStart arrowStart' : Option Nat}
  {next : Lexeme}

theorem expression_parses (whole : Parses g.assignment context tape found ⟨next :: rest, lo', hi', arrowStart', steps + 2⟩)
    (final : next.token ≠ .mark .comma) :
    Parses (expression g) context tape found ⟨next :: rest, lo', hi', arrowStart', steps + 2⟩ :=
  whole.bind ((isAt_other context final).bind (.pure _ _ _))

/-- An expression with a semicolon behind it is a statement. -/
theorem expressionStatement_parses {op : AssignOp} {semicolonStart semicolonStop : Nat} {semicolonNewline : Bool}
    (kind : found.kind = .assign op) (tidy : strayShorthands found = [])
    (whole : Parses g.assignment { context with allowIn := true } tape found
      ⟨⟨.mark .semicolon, semicolonStart, semicolonStop, semicolonNewline⟩ :: rest, lo', hi', arrowStart', steps + 2⟩) :
    Parses (expressionStatement g start) context tape (.mk .expression start semicolonStop [found])
      ⟨rest, semicolonStart, semicolonStop, arrowStart', steps + 2⟩ := by
  let behind : Tape :=
    ⟨⟨.mark .semicolon, semicolonStart, semicolonStop, semicolonNewline⟩ :: rest, lo', hi', arrowStart', steps + 2⟩
  have checks : Parses (checkExpression found) context behind () behind := by
    rw [checkExpression, tidy]
    exact .pure () _ _
  have ended : Parses eatSemicolon context behind true ⟨rest, semicolonStart, semicolonStop, arrowStart', steps + 2⟩ :=
    Parses.bind (eat_same context) (.pure _ _ _)
  refine (Parses.within (expression_parses whole (by nofun))).bind ?_
  rw [kind]
  exact checks.bind (ended.bind (node_parses _ _ _ _ _))

theorem statement_parses (ordinary : Ordinary context name) (notUsing : name ≠ "using")
    (whole : Parses (expressionStatement g start) context
      ⟨⟨.ident name, start, stop, newline⟩ :: more, lo, hi, arrowStart, steps + 2⟩ found left) :
    Parses (statement g true true) context
      ⟨⟨.ident name, start, stop, newline⟩ :: more, lo, hi, arrowStart, steps + 2⟩ found left := by
  refine (position_parses context).bind ?_
  refine (isAt_other context (by nofun)).bind ?_
  refine Parses.bind ((Parses.pure true _ _).bind (isAt_other context fun same => notUsing (Token.ident.inj same))) ?_
  refine (require_parses context (by nofun)).bind ?_
  split
  · next same => cases same
  · next same => cases same
  · next same => cases same
  · next same =>
    cases same
    exact absurd (by simp) ordinary.2
  · exact whole

/-- A statement up to the end of the source. -/
theorem statements_parses {one : Node} {first : Lexeme} (opens : first.token ≠ .mark .closeBrace)
    (lax : isUseStrict one = false)
    (whole : Parses (g.statement true true) context ⟨first :: more, lo, hi, arrowStart, steps + 2⟩ one
      ⟨[], lo', hi', arrowStart', steps + 2⟩) :
    Parses (statements g true true false) context ⟨first :: more, lo, hi, arrowStart, steps + 2⟩ [one]
      ⟨[], lo', hi', arrowStart', steps + 2⟩ := by
  refine loop_parses (repeatFrom_more ([one], false, false) ⟨[], lo', hi', arrowStart', steps + 2⟩ ?_
    (repeatFrom_last _ ?_))
  · refine Parses.within ((isAtEnd_parses _ _).bind ((isAt_other _ opens).bind (whole.bind ?_)))
    rw [lax]
    exact .pure _ _ _
  · refine Parses.within ((isAtEnd_parses _ _).bind ?_)
    exact .pure _ _ _

end Parse

open Parse

variable {g : Grammar} {source : String} {tape left : Tape} {first : Lexeme} {one root : Node} {more : List Lexeme}
  {lo hi steps : Nat} {arrowStart : Option Nat}

theorem script_parses (opens : first.token ≠ .mark .closeBrace) (least : first.lo = 0) (lax : isUseStrict one = false)
    (whole : Parses (g.statement true true) {} ⟨first :: more, 0, 0, none, steps + 2⟩ one ⟨[], lo, hi, arrowStart, steps + 2⟩) :
    Parses (script g) {} ⟨first :: more, 0, 0, none, steps + 2⟩ (.mk .script 0 hi [one])
      ⟨[], lo, hi, arrowStart, steps + 2⟩ := by
  refine .state fun r _ => ?_
  have all := (statements_parses opens lax whole).bind (node_parses .script 0 [one] _ _)
  dsimp only
  split
  · refine (position_parses _).bind ?_
    rw [least]
    exact all
  · exact (Parses.pure 0 _ _).bind all

/-- A source is read from its tokens. -/
theorem parse_of_tape (plain : source.toList.head? ≠ some '#') (holds : (Reader.start source).Holds tape)
    (whole : Parses (script (.raise (4 * tape.limit) .exhausted)) {} tape root left) :
    parse source = .ok ⟨none, root, {}⟩ := by
  have noInterpreter : skipInterpreter (.start source) = (none, .start source) := by
    have cut : (Reader.start source).cursor.startsWith "#!" = false := by
      change "#!".toList.isPrefixOf source.toList = false
      cases chars : source.toList with
      | nil => rfl
      | cons c rest =>
        rw [chars] at plain
        have other : ('#' == c) = false := beq_eq_false_iff_ne.mpr fun same => plain (by rw [same]; rfl)
        change (('#' == c) && ['!'].isPrefixOf rest) = false
        rw [other, Bool.false_and]
    rw [skipInterpreter, cut]
    rfl
  obtain ⟨r, holds', ran⟩ := whole (.start source) holds
  have same : 4 * (Reader.start source).limit = 4 * tape.limit := by rw [holds.limit]
  simp only [parse, noInterpreter, same, ran, holds'.problems, List.getLast?_nil, holds'.comments]

end Bundler.Script
