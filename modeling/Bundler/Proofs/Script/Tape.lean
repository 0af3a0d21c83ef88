import Bundler.Script.Parse

/-!
Parsing as seen from the tokens. A reader holds a tape: the tokens that are left, the ends of the one
before them, and what the parser keeps beside. How far the reader has looked ahead does not matter to
a parser, so each one is described by what it makes of a tape and the tape that it leaves.
-/

namespace Bundler.Script

/-- The tokens that are read from a place on, whatever surrounds them. There are only spaces between
them. -/
inductive Spells : Cursor → Bool → List Lexeme → Prop
  | done (offset : Nat) (newline : Bool) : Spells ⟨[], offset⟩ newline []
  | token (spaces : Nat) (first : Char) {offset : Nat} {text : List Char} {newline : Bool} {token : Token}
      {after : Cursor} {more : List Lexeme} (seen : Text.isScriptSpace first = false) (same : Text.isLineTerminator first = false)
      (proper : first ≠ '\x00' ∧ first ≠ '/')
      (found : ∀ context, Scanner.scan context newline ⟨first :: text, offset + spaces⟩ = .token token after [])
      (rest : Spells after false more) : Spells ⟨List.replicate spaces ' ' ++ first :: text, offset⟩ newline
        (⟨token, offset + spaces, after.offset, newline⟩ :: more)

/-- What a parser sees of a reader. -/
structure Tape where
  tokens : List Lexeme
  /-- The ends of the token that was consumed last. -/
  lo : Nat := 0
  hi : Nat := 0
  arrowStart : Option Nat := none
  limit : Nat

namespace Reader

variable {r : Reader} {tape : Tape} {context : Context} {lexeme : Lexeme} {more : List Lexeme}

/-- Whether a reader holds a tape, and has met neither a comment nor a problem. -/
structure Holds (r : Reader) (tape : Tape) : Prop where
  tokens : match r.current with
    | none => Spells r.cursor r.newline tape.tokens
    | some lexeme => ∃ more, tape.tokens = lexeme :: more ∧ Spells r.cursor r.newline more
  next : r.next = none
  pending : r.pending = []
  comments : r.comments = {}
  problems : r.problems = []
  lo : r.previousLo = tape.lo
  hi : r.previousHi = tape.hi
  arrowStart : r.arrowStart = tape.arrowStart
  limit : r.limit = tape.limit

/-- A reader holds all tokens of a source at its start. -/
theorem start_holds {source : String} {tokens : List Lexeme} (ahead : Spells ⟨source.toList, 0⟩ true tokens) :
    (start source).Holds ⟨tokens, 0, 0, none, source.toList.length + 16⟩ :=
  ⟨ahead, rfl, rfl, rfl, rfl, rfl, rfl, rfl, rfl⟩

theorem skipTrivia_spaces {spaces fuel : Nat} {first : Char} {text : List Char}
    (here : r.cursor.rest = List.replicate spaces ' ' ++ first :: text) (seen : Text.isScriptSpace first = false)
    (same : Text.isLineTerminator first = false) (proper : first ≠ '\x00' ∧ first ≠ '/') :
    skipTrivia (fuel + 1) r = .ok { r with cursor := ⟨first :: text, r.cursor.offset + spaces⟩ } := by
  let isBlank (c : Char) : Bool := Text.isScriptSpace c || Text.isLineTerminator c || c = '\x00'
  have shown : isBlank first = false := by simp [isBlank, seen, same, proper.1]
  have blanks : ∀ c ∈ List.replicate spaces ' ', isBlank c = true := by
    intro c member
    rw [List.eq_of_mem_replicate member]
    rfl
  have taken : r.cursor.rest.takeWhile isBlank = List.replicate spaces ' ' := by
    rw [here, List.takeWhile_append_of_pos blanks, List.takeWhile_cons_of_neg (by simp [shown]), List.append_nil]
  have left : r.cursor.rest.dropWhile isBlank = first :: text := by
    rw [here, List.dropWhile_append_of_pos blanks, List.dropWhile_cons_of_neg (by simp [shown])]
  have skipped : r.skipBlank = { r with cursor := ⟨first :: text, r.cursor.offset + spaces⟩ } := by
    have unbroken : (List.replicate spaces ' ').any Text.isLineTerminator = false := by
      rw [List.any_eq_false]
      intro c member
      rw [List.eq_of_mem_replicate member]
      decide
    change ({ r with
      cursor := ⟨r.cursor.rest.dropWhile isBlank, r.cursor.offset + (r.cursor.rest.takeWhile isBlank).length⟩
      newline := r.newline || (r.cursor.rest.takeWhile isBlank).any Text.isLineTerminator } : Reader) = _
    rw [taken, left, unbroken, Bool.or_false, List.length_replicate]
  rw [skipTrivia, skipped]
  split
  · next mark => exact absurd (List.cons.inj mark).1 proper.2
  · next mark => exact absurd (List.cons.inj mark).1 proper.2
  · rfl

theorem read_token (context : Context) (ahead : Spells r.cursor r.newline (lexeme :: more)) (idle : r.pending = []) :
    ∃ after, Spells after false more ∧ r.read context = ({ r with
      cursor := after, lastEnd := lexeme.hi, newline := false, lineTrails := ownsLines lexeme.token
      blockTrails := ownsBlocks lexeme.token }, some lexeme) := by
  generalize here : r.cursor = cursor at ahead
  generalize broken : r.newline = newline at ahead
  cases ahead with
  | @token spaces offset first text newline token after more seen same proper found rest =>
    refine ⟨after, rest, ?_⟩
    rw [read, skipTrivia_spaces (by rw [here]) seen same proper]
    simp [readFrom, here, broken, found context, record, recordTo, idle]

theorem read_end (ahead : Spells r.cursor r.newline []) (idle : r.pending = []) : r.read context = (r, none) := by
  generalize here : r.cursor = cursor at ahead
  cases ahead
  have skipped : r.skipBlank = r := by
    obtain ⟨_, _⟩ := r
    cases here
    simp [skipBlank, Cursor.span]
  have finished : r.finish = r := by
    obtain ⟨_, _⟩ := r
    cases idle
    simp [finish]
  simp [read, skipTrivia, skipped, readFrom, here, finished]

/-- A reader that looks ahead holds the tape that it held, and sees its first token. -/
theorem look_holds (context : Context) (holds : r.Holds tape) :
    (r.look context).Holds tape ∧ (r.look context).current = tape.tokens.head? := by
  obtain ⟨tokens, lo, hi, arrowStart, limit⟩ := tape
  cases looked : r.current with
  | some lexeme =>
    have ahead := holds.tokens
    rw [looked] at ahead
    obtain ⟨more, rfl, _⟩ := ahead
    rw [look, looked]
    exact ⟨holds, looked⟩
  | none =>
    have ahead := holds.tokens
    rw [looked] at ahead
    have read : r.look context = { (r.read context).1 with current := (r.read context).2 } := by
      rw [look, looked, holds.next]
    rw [read]
    cases tokens with
    | nil =>
      rw [read_end ahead holds.pending]
      exact ⟨{ holds with tokens := ahead }, rfl⟩
    | cons lexeme more =>
      obtain ⟨after, rest, ran⟩ := read_token context ahead holds.pending
      rw [ran]
      exact ⟨{ holds with tokens := ⟨more, rfl, rest⟩ }, rfl⟩

end Reader

namespace Parse

variable {α β σ : Type} {parser : Parse α} {next : α → Parse β} {context : Context} {tape middle left : Tape} {a : α}
  {b : β} {lexeme : Lexeme} {more : List Lexeme} {lo hi : Nat} {arrowStart : Option Nat} {limit : Nat}

theorem run_tryCatch_ok {ε : Type} {work : ExceptT ε (StateM σ) α} {handle : ε → ExceptT ε (StateM σ) α} {s s' : σ}
    (ran : work.run.run s = (.ok a, s')) : (tryCatch work handle).run.run s = (.ok a, s') := by
  change (ExceptT.tryCatch work handle).run.run s = _
  rw [ExceptT.tryCatch, ExceptT.run_mk, StateT.run_bind, show StateT.run work s = (.ok a, s') from ran]
  rfl

/-- Whether a parser makes a value of a tape, and what it leaves of the tape. -/
def Parses (parser : Parse α) (context : Context) (tape : Tape) (a : α) (left : Tape) : Prop :=
  ∀ r : Reader, r.Holds tape → ∃ r' : Reader, r'.Holds left ∧ (parser.run context).run.run r = (.ok a, r')

namespace Parses

theorem pure (a : α) (context : Context) (tape : Tape) : Parses (Pure.pure a) context tape a tape :=
  fun r holds => ⟨r, holds, rfl⟩

theorem bind (first : Parses parser context tape a middle) (second : Parses (next a) context middle b left) :
    Parses (parser >>= next) context tape b left := by
  intro r holds
  obtain ⟨r', holds', ran⟩ := first r holds
  obtain ⟨r'', holds'', ran'⟩ := second r' holds'
  refine ⟨r'', holds'', ?_⟩
  rw [ReaderT.run_bind, ExceptT.run_bind, StateT.run_bind, ran]
  exact ran'

/-- What goes on with the surroundings goes on with the ones at hand. -/
theorem surroundings {next : Context → Parse β} (goes : Parses (next context) context tape b left) :
    Parses (read >>= next) context tape b left := goes

/-- What goes on with the reader goes on with each that holds the tape. -/
theorem state {next : Reader → Parse β} (goes : ∀ r : Reader, r.Holds tape → Parses (next r) context tape b left) :
    Parses (get >>= next) context tape b left := fun r holds => goes r holds r holds

/-- A test in two parts fails with its first part. -/
theorem not_both {one other : Parse Bool} (fails : Parses one context tape false left) :
    Parses (one <&&> other) context tape false left := fails.bind (.pure _ _ _)

theorem within {change : Context → Context} (goes : Parses parser (change context) tape a left) :
    Parses (Parse.within change parser) context tape a left := goes

theorem attempt (goes : Parses parser context tape a left) : Parses (Parse.attempt parser) context tape (.ok a) left := by
  intro r holds
  obtain ⟨r', holds', ran⟩ := goes r holds
  refine ⟨r', holds', ?_⟩
  have body : ((do return .ok (← parser) : Parse (Except SyntaxError α)).run context).run.run r = (.ok (.ok a), r') := by
    rw [ReaderT.run_bind, ExceptT.run_bind, StateT.run_bind, ran]
    rfl
  exact run_tryCatch_ok body

end Parses

/-! ### Looking -/

theorem current_parses (context : Context) (tape : Tape) : Parses current context tape tape.tokens.head? tape := by
  intro r holds
  obtain ⟨holds', seen⟩ := Reader.look_holds context holds
  refine ⟨r.look context, holds', ?_⟩
  rw [← seen]
  rfl

theorem token?_parses (context : Context) :
    Parses token? context ⟨lexeme :: more, lo, hi, arrowStart, limit⟩ (some lexeme.token)
      ⟨lexeme :: more, lo, hi, arrowStart, limit⟩ :=
  (current_parses context _).bind (.pure _ _ _)

theorem isAt_same (context : Context) :
    Parses (isAt lexeme.token) context ⟨lexeme :: more, lo, hi, arrowStart, limit⟩ true
      ⟨lexeme :: more, lo, hi, arrowStart, limit⟩ :=
  (token?_parses context).bind (by rw [beq_self_eq_true]; exact .pure _ _ _)

theorem isAt_other {token : Token} (context : Context) (other : lexeme.token ≠ token) :
    Parses (isAt token) context ⟨lexeme :: more, lo, hi, arrowStart, limit⟩ false
      ⟨lexeme :: more, lo, hi, arrowStart, limit⟩ :=
  (token?_parses context).bind (by rw [beq_eq_false_iff_ne.mpr fun same => other (Option.some.inj same)]; exact .pure _ _ _)

theorem isAtEnd_parses (context : Context) (tape : Tape) :
    Parses isAtEnd context tape tape.tokens.head?.isNone tape :=
  (current_parses context tape).bind (.pure _ _ _)

theorem newlineBefore_parses (context : Context) :
    Parses newlineBefore context ⟨lexeme :: more, lo, hi, arrowStart, limit⟩ lexeme.newline
      ⟨lexeme :: more, lo, hi, arrowStart, limit⟩ :=
  (current_parses context _).bind (.pure _ _ _)

theorem position_parses (context : Context) :
    Parses position context ⟨lexeme :: more, lo, hi, arrowStart, limit⟩ lexeme.lo
      ⟨lexeme :: more, lo, hi, arrowStart, limit⟩ :=
  (current_parses context _).bind (.pure _ _ _)

theorem lastEnd_parses (context : Context) (tape : Tape) : Parses lastEnd context tape tape.hi tape :=
  .state fun _ holds => holds.hi ▸ .pure _ _ _

theorem node_parses (kind : Kind) (start : Nat) (children : List Node) (context : Context) (tape : Tape) :
    Parses (node kind start children) context tape (.mk kind start tape.hi children) tape :=
  (lastEnd_parses context tape).bind (.pure _ _ _)

/-! ### Consuming -/

theorem advance_parses (context : Context) : Parses advance context ⟨lexeme :: more, lo, hi, arrowStart, limit⟩ ()
    ⟨more, lexeme.lo, lexeme.hi, arrowStart, limit⟩ := by
  intro r holds
  obtain ⟨holds', seen⟩ := Reader.look_holds context holds
  refine ⟨(r.look context).advance, ?_, rfl⟩
  have ahead := holds'.tokens
  rw [Reader.advance, seen]
  rw [seen] at ahead
  obtain ⟨_, same, rest⟩ := ahead
  cases same
  exact { holds' with tokens := rest, lo := rfl, hi := rfl }

theorem eat_same (context : Context) : Parses (eat lexeme.token) context ⟨lexeme :: more, lo, hi, arrowStart, limit⟩ true
    ⟨more, lexeme.lo, lexeme.hi, arrowStart, limit⟩ :=
  (isAt_same context).bind ((advance_parses context).bind (.pure _ _ _))

theorem eat_other {token : Token} (context : Context) (other : lexeme.token ≠ token) : Parses (eat token) context
    ⟨lexeme :: more, lo, hi, arrowStart, limit⟩ false ⟨lexeme :: more, lo, hi, arrowStart, limit⟩ :=
  (isAt_other context other).bind (.pure _ _ _)

theorem expect_parses {m : Mark} {start stop : Nat} {newline : Bool} (context : Context) : Parses (expect m) context
    ⟨⟨.mark m, start, stop, newline⟩ :: more, lo, hi, arrowStart, limit⟩ () ⟨more, start, stop, arrowStart, limit⟩ := by
  have eaten : Parses (eat (.mark m)) context ⟨⟨.mark m, start, stop, newline⟩ :: more, lo, hi, arrowStart, limit⟩ true
    ⟨more, start, stop, arrowStart, limit⟩ := eat_same context
  exact eaten.bind (.pure _ _ _)

theorem require_parses (context : Context) (sound : ∀ e, lexeme.token ≠ .failed e) :
    Parses require context ⟨lexeme :: more, lo, hi, arrowStart, limit⟩ lexeme.token
      ⟨lexeme :: more, lo, hi, arrowStart, limit⟩ := by
  refine (token?_parses context).bind ?_
  obtain ⟨token, _, _, _⟩ := lexeme
  cases token with
  | failed e => exact absurd rfl (sound e)
  | _ => exact .pure _ _ _

theorem soft?_parses (context : Context) (sound : ∀ e, lexeme.token ≠ .failed e) :
    Parses soft? context ⟨lexeme :: more, lo, hi, arrowStart, limit⟩ (some lexeme.token)
      ⟨lexeme :: more, lo, hi, arrowStart, limit⟩ := by
  refine (token?_parses context).bind ?_
  obtain ⟨token, _, _, _⟩ := lexeme
  cases token with
  | failed e => exact absurd rfl (sound e)
  | _ => exact .pure _ _ _

/-! ### Repeating -/

section Loops

variable {step : σ → Parse (σ ⊕ α)} {start : σ} {fuel : Nat}

theorem repeatFrom_last (left : Tape) (ends : Parses (step start) context tape (.inr a) left) :
    Parses (repeatFrom step (fuel + 1) start) context tape a left :=
  ends.bind (.pure _ _ _)

theorem repeatFrom_more (following : σ) (middle : Tape) (goes : Parses (step start) context tape (.inl following) middle)
    (rest : Parses (repeatFrom step fuel following) context middle a left) :
    Parses (repeatFrom step (fuel + 1) start) context tape a left :=
  goes.bind rest

theorem loop_parses (repeats : Parses (repeatFrom step tape.limit start) context tape a left) :
    Parses (loop start step) context tape a left :=
  .state fun _ holds => holds.limit ▸ repeats

end Loops

end Parse

end Bundler.Script
