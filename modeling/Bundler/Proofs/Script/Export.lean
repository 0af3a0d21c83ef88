import Bundler.Proofs.Script.Scanner
import Bundler.Proofs.Script.Statement

/-!
Scripts that store one value in `module.exports`: whatever text a literal quotes there, it stays one literal.
-/

namespace Bundler.Script

open Parse Text.Quoted

variable {g : Grammar} {context : Context} {text : String} {value : Node} {first next : Lexeme} {more rest : List Lexeme}
  {chars : List Char} {offset lo hi lo' hi' steps : Nat} {newline : Bool} {arrowStart arrowStart' : Option Nat}

theorem Grammar.raise_succ (levels : Nat) (g : Grammar) : raise (levels + 1) g = (raise levels g).step := by
  induction levels generalizing g with
  | zero => rfl
  | succ levels ih => exact ih g.step

/-! ### Tokens -/

theorem spells_quote (spaces : Nat) (ahead : Spells ⟨chars, offset + spaces + (quote text).toList.length⟩ false more) :
    Spells ⟨List.replicate spaces ' ' ++ ((quote text).toList ++ chars), offset⟩ false
      (⟨.string text (quote text), offset + spaces, offset + spaces + (quote text).toList.length, false⟩ :: more) := by
  have spelled : (quote text).toList = '"' :: (escapeChars text.toList ++ ['"']) := String.toList_ofList
  have found (context : Context) :
      Scanner.scan context false ⟨'"' :: (escapeChars text.toList ++ ['"'] ++ chars), offset + spaces⟩ =
        .token (.string text (quote text)) ⟨chars, offset + spaces + (quote text).toList.length⟩ [] := by
    have string := Scanner.string_quote context.strict text chars (offset + spaces)
    rw [spelled, List.cons_append] at string
    rw [spelled]
    exact string
  have spells := Spells.token spaces '"' rfl rfl (by decide) found ahead
  rw [spelled] at spells ⊢
  exact spells

theorem spells_end (offset : Nat) : Spells ⟨[';'], offset⟩ false [⟨.mark .semicolon, offset, offset + 1, false⟩] :=
  .token 0 ';' rfl rfl (by decide) (fun _ => rfl) (.done _ _)

/-- The tokens in front of the value. -/
def exportTokens : List Lexeme :=
  [⟨.ident "module", 0, 6, true⟩, ⟨.mark .dot, 6, 7, false⟩, ⟨.ident "exports", 7, 14, false⟩,
    ⟨.assign .plain, 15, 16, false⟩]

theorem spells_export (ahead : Spells ⟨' ' :: chars, 16⟩ false more) :
    Spells ⟨"module.exports = ".toList ++ chars, 0⟩ true (exportTokens ++ more) :=
  .token 0 'm' rfl rfl (by decide) (fun _ => rfl)
    (.token 0 '.' rfl rfl (by decide) (fun _ => rfl)
      (.token 0 'e' rfl rfl (by decide) (fun _ => rfl)
        (.token 1 '=' rfl rfl (by decide) (fun _ => rfl) ahead)))

/-- The tokens of a call of `JSON.parse` in front of its argument. -/
def parseTokens : List Lexeme :=
  [⟨.ident "JSON", 17, 21, false⟩, ⟨.mark .dot, 21, 22, false⟩, ⟨.ident "parse", 22, 27, false⟩,
    ⟨.mark .openParen, 27, 28, false⟩]

theorem spells_parse (ahead : Spells ⟨chars, 28⟩ false more) :
    Spells ⟨' ' :: ("JSON.parse(".toList ++ chars), 16⟩ false (parseTokens ++ more) :=
  .token 1 'J' rfl rfl (by decide) (fun _ => rfl)
    (.token 0 '.' rfl rfl (by decide) (fun _ => rfl)
      (.token 0 'p' rfl rfl (by decide) (fun _ => rfl)
        (.token 0 '(' rfl rfl (by decide) (fun _ => rfl) ahead)))

/-! ### Trees -/

/-- The literal of a text from a place on. -/
def literalAt (start : Nat) (text : String) : Node :=
  .mk (.string text (some (quote text))) start (start + (quote text).toList.length) []

/-- A call of `JSON.parse` with the literal of a text. -/
def parsing (text : String) : Node :=
  .mk .call 17 ((literalAt 28 text).hi + 1)
    [.mk .member 17 27 [.mk (.name "JSON") 17 21 [], .mk (.name "parse") 22 27 []], literalAt 28 text]

/-- The script that stores a value, which a semicolon follows, in `module.exports`. -/
def exporting (value : Node) : Node :=
  let exports : Node := .mk .member 0 14 [.mk (.name "module") 0 6 [], .mk (.name "exports") 7 14 []]
  let stored : Node := .mk (.assign .plain) 0 value.hi [exports, value]
  .mk .script 0 (value.hi + 1) [.mk .expression 0 (value.hi + 1) [stored]]

theorem ordinary_of_plainWord {name : String} (context : Context)
    (free : Context.plainWords.contains name = false ∧ Context.strictWords.contains name = false)
    (other : name ∉ ["let", "await", "yield", "async", "arguments", "enum"]) : Ordinary context name := by
  simp only [List.mem_cons, List.not_mem_nil, or_false, not_or] at other
  obtain ⟨notLet, notAwait, notYield, notAsync, notArguments, notEnum⟩ := other
  constructor
  · simp only [Context.reserves, beq_eq_false_iff_ne.mpr notLet, beq_eq_false_iff_ne.mpr notAwait,
      beq_eq_false_iff_ne.mpr notYield, Bool.false_eq_true, if_false, free.1, free.2, Bool.and_false, Bool.or_false]
  · simp [notAsync, notArguments, notEnum]

theorem literal_parses {start : Nat} (calm : context.inGenerator = false)
    (ends : Ends true next.token) (final : next.token ≠ .assign .plain) :
    Parses (assignment g.step) context
      ⟨⟨.string text (quote text), start, start + (quote text).toList.length, newline⟩ :: next :: more, lo, hi, arrowStart,
        steps + 2⟩
      (literalAt start text) ⟨next :: more, start, start + (quote text).toList.length, none, steps + 2⟩ :=
  assignment_parses calm (.string _ _) .string ends
    (leftHand_parses (.string _ _) .string (newExpression_string _ ends.of_called) ends) (storing_none _ _ ends final)

theorem parsing_parses {stop : Nat} (calm : context.inGenerator = false) (behind : (literalAt 28 text).hi = stop)
    (ends : Ends true next.token) (final : next.token ≠ .assign .plain) :
    Parses (assignment g.step.step) context
      ⟨parseTokens ++ ⟨.string text (quote text), 28, 28 + (quote text).toList.length, false⟩ ::
        ⟨.mark .closeParen, stop, stop + 1, false⟩ :: next :: more, lo, hi, arrowStart, steps + 2⟩
      (parsing text) ⟨next :: more, stop, stop + 1, none, steps + 2⟩ := by
  subst behind
  refine assignment_parses calm (.name _) .call ends ?_ (storing_none _ _ ends final)
  have ordinary : Ordinary context "JSON" := ordinary_of_plainWord context (by decide) (by decide)
  exact leftHand_call (.name _) .member (newExpression_property _ ordinary .openParen) (isAt_same context)
    (arguments_parses (.string _ _) (literal_parses calm .closeParen (by nofun))) ends

/-- A script whose statement stores a value is read if the value is. -/
theorem script_exporting {lo' hi' : Nat} (value : Node) (stop : value.hi = hi')
    (tidy : strayShorthands value = [])
    (read : ∀ arrowStart, Parses (assignment g.step.step) { allowIn := true }
      ⟨first :: more, 15, 16, arrowStart, steps + 2⟩ value
      ⟨[⟨.mark .semicolon, hi', hi' + 1, false⟩], lo', hi', arrowStart', steps + 2⟩) :
    Parses (script g.step.step.step.step.step) {} ⟨exportTokens ++ first :: more, 0, 0, none, steps + 2⟩
      (exporting value) ⟨[], hi', hi' + 1, arrowStart', steps + 2⟩ := by
  subst stop
  have ordinary (context : Context) : Ordinary context "module" := ordinary_of_plainWord context (by decide) (by decide)
  let exports : Node := .mk .member 0 14 [.mk (.name "module") 0 6 [], .mk (.name "exports") 7 14 []]
  let stored : Node := .mk (.assign .plain) 0 value.hi [exports, value]
  have tidy' : strayShorthands stored = [] := by
    change [] ++ (strayShorthands value ++ []) = []
    rw [tidy]
    rfl
  have whole : Parses (assignment g.step.step.step) { allowIn := true }
      ⟨exportTokens ++ first :: more, 0, 0, none, steps + 2⟩ stored
      ⟨[⟨.mark .semicolon, value.hi, value.hi + 1, false⟩], lo', value.hi, arrowStart', steps + 2⟩ :=
    assignment_parses rfl (.name _) .member .equals
      (leftHand_parses (.name _) .member (newExpression_property _ (ordinary _) .equals) .equals)
      (storing_value _ rfl (read _))
  exact script_parses (by nofun) rfl rfl
    (statement_parses (ordinary _) (by decide) (expressionStatement_parses rfl tidy' whole))

/-- The source of a script that stores a value is read if its tokens are. -/
theorem parse_exporting {source : String} {lo' hi' : Nat} (value : Node)
    (spelled : source.toList = "module.exports = ".toList ++ chars) (stop : value.hi = hi')
    (tidy : strayShorthands value = []) (ahead : Spells ⟨' ' :: chars, 16⟩ false (first :: more))
    (read : ∀ g : Grammar, ∀ arrowStart steps, Parses (assignment g.step.step) { allowIn := true }
      ⟨first :: more, 15, 16, arrowStart, steps + 2⟩ value
      ⟨[⟨.mark .semicolon, hi', hi' + 1, false⟩], lo', hi', arrowStart', steps + 2⟩) :
    parse source = .ok ⟨none, exporting value, {}⟩ := by
  have holds := Reader.start_holds (spelled ▸ spells_export ahead)
  have levels : ∃ g : Grammar, Grammar.raise (4 * (source.toList.length + 16)) .exhausted = g.step.step.step.step.step := by
    refine ⟨.raise (4 * source.toList.length + 59) .exhausted, ?_⟩
    rw [show 4 * (source.toList.length + 16) = 4 * source.toList.length + 59 + 1 + 1 + 1 + 1 + 1 by omega]
    simp only [Grammar.raise_succ]
  obtain ⟨g, deep⟩ := levels
  have whole := script_exporting value stop tidy fun arrowStart => read g arrowStart (source.toList.length + 14)
  rw [← deep] at whole
  refine parse_of_tape ?_ holds whole
  rw [spelled]
  change some 'm' ≠ some '#'
  decide

/-- A script that stores a quoted text stores one literal, whatever the text. -/
theorem parse_exporting_quote (text : String) : parse ("module.exports = " ++ quote text ++ ";") =
    .ok ⟨none, exporting (literalAt 17 text), {}⟩ := by
  have spelled : ("module.exports = " ++ quote text ++ ";").toList =
      "module.exports = ".toList ++ ((quote text).toList ++ [';']) := by simp
  have ahead : Spells ⟨List.replicate 1 ' ' ++ ((quote text).toList ++ [';']), 16⟩ false _ := spells_quote 1 (spells_end _)
  rw [List.replicate_one, List.singleton_append] at ahead
  exact parse_exporting (literalAt 17 text) spelled rfl rfl ahead fun _ _ _ => literal_parses rfl .semicolon (by nofun)

/-- A script that stores what `JSON.parse` makes of a quoted text holds one call, with one literal, whatever the
text. -/
theorem parse_exporting_parse (text : String) : parse ("module.exports = JSON.parse(" ++ quote text ++ ");") =
    .ok ⟨none, exporting (parsing text), {}⟩ := by
  have spelled : ("module.exports = JSON.parse(" ++ quote text ++ ");").toList =
      "module.exports = ".toList ++ ("JSON.parse(".toList ++ ((quote text).toList ++ [')', ';'])) := by simp
  have ends (offset : Nat) : Spells ⟨[')', ';'], offset⟩ false [⟨.mark .closeParen, offset, offset + 1, false⟩,
      ⟨.mark .semicolon, offset + 1, offset + 2, false⟩] :=
    .token 0 ')' rfl rfl (by decide) (fun _ => rfl) (spells_end _)
  have quoted : Spells ⟨List.replicate 0 ' ' ++ ((quote text).toList ++ [')', ';']), 28⟩ false _ := spells_quote 0 (ends _)
  rw [List.replicate_zero, List.nil_append] at quoted
  exact parse_exporting (parsing text) spelled rfl rfl (spells_parse quoted) fun _ _ _ => parsing_parses rfl rfl .semicolon (by nofun)

end Bundler.Script
