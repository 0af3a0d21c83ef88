import Bundler.Proofs.Script.Reading.Function

/-!
Lists of expressions, and literals, go forth. The pieces of a template and regular expressions are read from the source itself,
where no token behind them is at hand.
-/

namespace Bundler.Script

/-! ### Tokens that are read anew -/

namespace Reader

variable {r r' : Reader} {lo : Nat} {stack : List Node} {lexeme : Lexeme}

/-- Whether no token is at hand. -/
def Bare (r : Reader) : Prop := r.current = none ∧ r.next = none

/-- A token that is read where none is at hand. -/
theorem Carries.scan (carries : Carries lo stack r) (bare : r.Bare) (start : lexeme.lo = r.cursor.offset) (spans : lexeme.Spans)
    (current : r'.current = some lexeme) (next : r'.next = none) (previousHi : r'.previousHi = r.previousHi)
    (offset : r'.cursor.offset = lexeme.hi) : Carries lo stack r' := by
  obtain ⟨⟨spread, _⟩, within, plain⟩ := carries
  have behind : r.previousHi ≤ r.cursor.offset := spread.le
  have ahead : r.ahead = r.previousHi := by simp [Reader.ahead, bare.1]
  refine ⟨⟨?_, by simp [next]⟩, ?_, plain⟩
  · rw [current, next, previousHi, offset]
    exact ⟨start ▸ behind, spans, Nat.le_refl _⟩
  · have ahead' : r'.ahead = r.cursor.offset := by simp [Reader.ahead, current, start]
    rw [ahead] at within
    rw [ahead']
    exact within.mono behind

/-- Behind a token that is neither a word nor a mark no token is at hand. -/
theorem Carries.bare {token : Token} (carries : Carries lo stack r) (known : r.token? = some token)
    (other : token.isWordOrMark = false) : r.advance.Bare := by
  obtain ⟨lexeme, current, rfl⟩ := Option.map_eq_some_iff.mp known
  refine ⟨by simp [Reader.advance, current], ?_⟩
  by_contra ahead
  have next : r.next ≠ none := by simpa [Reader.advance, current] using ahead
  have plain := carries.ordered.wordOrMark next lexeme (by rw [current]; exact rfl)
  rw [other] at plain
  cases plain

end Reader

namespace Parse

open Reader

variable {g : Grammar} {lo start : Nat} {stack : List Node} {isImport tagged : Bool}

/-! ### Lists -/

theorem expression_reads (forth : g.Forth) : Reads (expression g) := fun lo stack => by
  refine forth.assignment.bind fun first => isAtMark_keeps.bind fun _ => .ite (fun _ => .pure fun _ => id) fun _ => ?_
  have others : ReadsAll (loop [] fun found => do
      if ← eatMark .comma then return .inl ((← g.assignment) :: found)
      return .inr found.reverse) := fun lo stack => by
    refine .loop (I := fun found => Carries lo (found ++ stack)) fun found => eatMark_keeps.bind fun _ => ?_
    exact .ite (fun _ => forth.assignment.bind fun _ => .pure fun _ => id) fun _ => .pure fun _ => Carries.reversed
  exact others.bind fun others => nodeOver_onward rfl rfl

theorem argument_reads (forth : g.Forth) : Reads (argument g) := fun lo stack => by
  refine position_keeps.bind fun start => eatMark_keeps.bind fun _ => .ite (fun _ => ?_) fun _ => forth.assignment lo stack
  exact forth.assignment.within.bind fun inner => node_onward rfl

theorem arguments_reads (forth : g.Forth) : ReadsAll (arguments g isImport) := fun lo stack => by
  refine position_keeps.bind fun start => expect_keeps.bind fun _ => ?_
  refine Onward.bind (Q := fun ns => Carries lo (ns.reverse ++ stack)) ?_ fun found => expect_keeps.bind fun _ => .pure fun _ => id
  refine .loop (I := fun found => Carries lo (found ++ stack)) fun found => ?_
  refine isAtEnd_keeps.bind fun _ => isAtMark_keeps.bind fun _ => .ite (fun _ => .pure fun _ => Carries.reversed) fun _ => ?_
  extract_lets one
  have goes : Onward (Carries lo (found ++ stack)) (one ()) fun result r =>
      result.elim (fun found => Carries lo (found ++ stack) r) fun found => Carries lo (found.reverse ++ stack) r :=
    (argument_reads forth).within.bind fun _ => .pure fun _ => id
  refine .ite (fun _ => expect_keeps.bind fun _ => isAtMark_keeps.bind fun _ => ?_) fun _ => goes
  exact .ite (fun _ => failAt_rests.when (.pure fun _ => Carries.reversed)) fun _ => goes

theorem arrayLiteral_reads (forth : g.Forth) : Reads (arrayLiteral g) := fun lo stack => by
  refine position_keeps.bind fun start => advance_keeps.bind fun _ => ?_
  refine (itemsUntil_reads fun lo stack => ?_).bind fun elements => expect_keeps.bind fun _ => node_onward rfl
  refine eatMark_keeps.bind fun _ => .ite (fun _ => .pure fun _ => Carries.absent) fun _ => ?_
  refine (argument_reads forth).within.bind fun one => isAtMark_keeps.bind fun _ => ?_
  refine .ite (fun _ => expect_keeps.bind fun _ => isAtMark_keeps.bind fun _ => ?_) fun _ => .pure fun _ => id
  refine .ite (fun _ => lastStart_rests.bind fun comma => (modify_keeps ?_).bind fun _ => .pure fun _ => id) fun _ => .pure fun _ => id
  exact fun _ => ⟨rfl, rfl, rfl, rfl, rfl⟩

/-! ### Templates -/

theorem readPiece_keeps : Keeps (readPiece start) := fun lo stack => by
  refine .get fun r => ?_
  split
  · next bare =>
    obtain ⟨⟨current, next⟩, _⟩ : (r.current = none ∧ r.next = none) ∧ _ := by simpa using bare
    have forth := Scanner.le_template start r.cursor
    have unnamed := Scanner.template_unnamed start r.cursor
    rcases scanned : Scanner.template start r.cursor with ⟨token, after⟩
    rw [scanned] at forth unnamed
    refine .replacing id fun carries => carries.scan ⟨current, next⟩ rfl ⟨forth, fun name named => ?_⟩ rfl next rfl rfl
    exact absurd named (unnamed name)
  · exact Onward.here (.pure fun _ => id) id

/-- Behind the piece of a template the source goes on where it ends. -/
theorem piece_onward : Onward (Carries lo stack) (piece tagged start) fun _ r => Carries lo stack r ∧ r.Bare := by
  refine readPiece_keeps.bind fun _ => require_onward.bind fun token => ?_
  split
  · next raw flaw =>
    have bare : Onward (fun r => Carries lo stack r ∧ r.token? = some (.template raw flaw)) advance fun _ r =>
        Carries lo stack r ∧ r.Bare :=
      advance_of_token (S := fun r => Carries lo stack r ∧ r.Bare) fun r carries known =>
        ⟨advance_carries carries, carries.bare known rfl⟩
    refine bare.bind fun _ => ?_
    split
    · exact .ite (fun _ => .pure fun _ => id) fun _ => .fail
    · exact .pure fun _ => id
  · exact unexpected_onward.forget

theorem template_onward (forth : g.Forth) : Onward (Carries lo stack) (template g tagged) fun result =>
    Carries lo (result.2.reverse ++ stack) := by
  refine position_keeps.bind fun start => advance_keeps.bind fun _ => piece_onward.bind fun first => ?_
  refine Onward.bind (Q := fun (result : List String × List Node) => Carries lo (result.2.reverse ++ stack)) ?_ fun result =>
    expect_keeps.bind fun _ => .pure fun _ => id
  refine .loop (I := fun (state : List String × List Node) r => Carries lo (state.2 ++ stack) r ∧ r.Bare) fun (pieces, found) => ?_
  refine .get fun r => ?_
  extract_lets behind
  have goes : Onward (Carries lo (found ++ stack)) (behind ()) fun result r =>
      result.elim (fun state => Carries lo (state.2 ++ stack) r ∧ r.Bare) fun found => Carries lo (found.2.reverse ++ stack) r := by
    refine isAtMark_keeps.bind fun _ => .ite (fun _ => .pure fun _ => Carries.reversed) fun _ => expect_keeps.bind fun _ => ?_
    exact (expression_reads forth).within.bind fun one => expect_keeps.bind fun _ => piece_onward.bind fun _ => .pure fun _ => id
  split
  · refine .replace id (fun ⟨carries, current, next⟩ => ?_) goes
    exact carries.scan ⟨current, next⟩ rfl ⟨Nat.le_add_right _ 2, fun name named => by cases named⟩ rfl next rfl rfl
  · exact goes.here And.left

/-! ### Regular expressions -/

/-- Whether a regular expression can be read from the source at a place: nothing from there on is at hand. -/
structure Rescans (lo : Nat) (stack : List Node) (start : Nat) (r : Reader) : Prop where
  bare : r.Bare
  offset : r.cursor.offset = start
  within : Within lo (stack.reverse.flatMap Node.heads) start
  plain : ∀ n ∈ stack, n.Plain

theorem Rescans.behind {r r' : Reader} (rescans : Rescans lo stack start r) (current : r'.current = r.current)
    (next : r'.next = r.next) (previousHi : r'.previousHi = r'.cursor.offset) (forth : start < r'.cursor.offset) :
    Carries lo stack r' := by
  have current' := current.trans rescans.bare.1
  have next' := next.trans rescans.bare.2
  refine ⟨⟨?_, by simp [next']⟩, ?_, rescans.plain⟩
  · rw [current', next']
    exact Nat.le_of_eq previousHi
  · have ahead : r'.ahead = r'.cursor.offset := by simp [Reader.ahead, current', previousHi]
    rw [ahead]
    exact rescans.within.mono (Nat.le_of_lt forth)

theorem regexLiteral_onward : Onward (Rescans lo stack start) (regexLiteral start) fun n => Carries lo (n :: stack) := by
  refine .get fun r => ?_
  split
  · extract_lets error length
    refine .replace (P := fun _ => True) id (fun _ => trivial) .fail
  · next pattern flags after scanned =>
    have forth := Scanner.lt_regex scanned
    extract_lets known repeated whole flag
    have goes : Onward (Carries lo stack) (whole ()) fun n => Carries lo (n :: stack) := node_onward rfl
    refine .replace (P := Carries lo stack) id (fun rescans => ?_) (noteAt_rests.when ?_)
    · exact rescans.behind rfl rfl rfl (rescans.offset ▸ forth)
    · unfold flag
      clear_value repeated
      cases repeated with
      | some flag => exact noteAt_rests.bind fun _ => goes
      | none => exact goes

/-- A regular expression is read from the slash on that has been taken for another token. -/
theorem regexAt_onward {token : Token} (text : List Char) (other : token.isWordOrMark = false) :
    Onward (fun r => Carries start [] r ∧ r.token? = some token) (do
      advance
      modify fun reader => { reader with cursor := ⟨text ++ reader.cursor.rest, start⟩ }
      regexLiteral start) fun n => Carries start [n] := by
  have consumed : Onward (fun r => Carries start [] r ∧ r.token? = some token) advance fun _ => Bare :=
    advance_of_token fun _ carries known => carries.bare known other
  have back : Onward Bare (modify fun reader : Reader => { reader with cursor := ⟨text ++ reader.cursor.rest, start⟩ })
      fun _ => Rescans start [] start :=
    .change (fun _ => id) fun _ _ bare => ⟨bare, rfl, .nil (Nat.le_refl _), nofun⟩
  exact consumed.bind fun _ => back.bind fun _ => regexLiteral_onward

end Parse

end Bundler.Script
