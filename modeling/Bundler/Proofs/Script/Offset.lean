import Bundler.Script.Reader

/-!
Reading a script never goes back: what is found at a place ends at that place or behind it, and a name takes up room.
-/

namespace Bundler.Script

namespace Scanner

/-- The place behind a string. -/
def StringEnd.after : StringEnd → Cursor
  | .complete _ after | .cut _ after | .failed _ after => after

/-- Whether what was found at a place ends there or behind, names take up room, and a string that is cut off has a flaw. -/
def Found.Forth (lo : Nat) : Found → Prop
  | .token found after _ => lo ≤ after.offset ∧ ∀ name, found = .ident name → name ≠ "" → lo < after.offset
  | .lineComment text _ => lo ≤ text.offset
  | .cutString _ _ after flaws => lo ≤ after.offset ∧ flaws ≠ []

/-- Whether a word ends at a place or behind, and behind it if it is longer than `word`. -/
def EndsWord (lo : Nat) (word : List Char) : Except (SyntaxError × Cursor) (List Char × Bool × Cursor) → Prop
  | .error (_, after) => lo ≤ after.offset
  | .ok (chars, _, after) => lo ≤ after.offset ∧ (chars ≠ word → lo < after.offset)

variable {radix count offset fuel start : Nat} {before : Option Char} {chars : List Char} {misplaced strict first escaped : Bool}
  {c after : Cursor} {value word : List Char} {flaws : List SyntaxError}

@[simp] theorem drop_offset (c : Cursor) (n : Nat) : (c.drop n).offset = c.offset + n := rfl

/-! ### Digits and escapes -/

theorem le_digitsFrom : offset ≤ (digitsFrom radix count before chars offset misplaced).after.offset := by
  induction chars generalizing count before offset misplaced with
  | nil => simp [digitsFrom]
  | cons c rest ih =>
    unfold digitsFrom
    split
    · exact Nat.le_trans (Nat.le_succ offset) ih
    · split
      · split
        · exact Nat.le_succ offset
        · exact Nat.le_trans (Nat.le_succ offset) ih
      · exact Nat.le_refl offset

theorem le_digits (radix : Nat) (c : Cursor) : c.offset ≤ (digits radix c).after.offset := le_digitsFrom

theorem le_exactDigits (radix count : Nat) (c : Cursor) : c.offset ≤ (exactDigits radix count c).after.offset := le_digitsFrom

theorem lt_unicodeEscape (c : Cursor) : c.offset < (unicodeEscape c).after.offset := by
  have four := le_exactDigits 16 4 (c.drop 1)
  have braced := le_digits 16 ((c.drop 1).drop 1)
  simp only [drop_offset] at four braced
  unfold unicodeEscape
  by_cases curly : (c.drop 1).rest.head? = some '{'
  · simp only [curly, if_true]
    repeat' split
    all_goals simp only [drop_offset]; omega
  · simp only [curly, if_false]
    repeat' split
    all_goals simp only [drop_offset]; omega

theorem le_octalEscape (c : Cursor) : c.offset ≤ (octalEscape c).after.offset := by
  unfold octalEscape
  dsimp only
  repeat' split
  all_goals simp

theorem lt_escape (c : Cursor) : c.offset < (escape c).after.offset := by
  have two := le_exactDigits 16 2 ((c.drop 1).drop 1)
  have unicode := lt_unicodeEscape (c.drop 1)
  have octal := le_octalEscape (c.drop 1)
  simp only [drop_offset] at two unicode octal
  unfold escape
  dsimp only
  repeat' split
  all_goals
    try simp only [drop_offset]
    omega

/-! ### Strings and templates -/

/-- A string ends behind its start, and one that is cut off has a flaw. -/
theorem le_stringBody (strict : Bool) (quote : Char) (start fuel : Nat) (c : Cursor) (value : List Char)
    (flaws : List SyntaxError) : let found := stringBody strict quote start fuel c value flaws
    c.offset ≤ found.1.after.offset ∧ (found.2 = [] → ∀ value after, found.1 ≠ .cut value after) := by
  induction fuel generalizing c value flaws with
  | zero => simp [stringBody, StringEnd.after]
  | succ fuel ih =>
    unfold stringBody
    split
    · simp [StringEnd.after]
    · next ch rest here =>
      split
      · simp [StringEnd.after]
      · split
        · simp [StringEnd.after]
        · split
          · have forth := lt_escape c
            simp only
            split
            · exact ⟨Nat.le_trans (Nat.le_of_lt forth) (ih _ _ _).1, (ih _ _ _).2⟩
            · exact ⟨Nat.le_of_lt forth, by simp⟩
          · exact ⟨Nat.le_trans (Nat.le_succ _) (ih (c.drop 1) _ _).1, (ih _ _ _).2⟩

theorem Found.Forth.of_token {token : Token} {lo : Nat} (forth : lo ≤ after.offset) (unnamed : ∀ name, token ≠ .ident name) :
    (Found.token token after flaws).Forth lo :=
  ⟨forth, fun name same => absurd same (unnamed name)⟩

theorem string_forth (strict : Bool) (c : Cursor) : (string strict c).Forth c.offset := by
  obtain ⟨forth, cut⟩ := le_stringBody strict (c.rest.head?.getD '"') c.offset (c.rest.length + 1) (c.drop 1) [] []
  simp only [drop_offset] at forth
  unfold string
  dsimp only
  split
  · next found =>
    rw [found] at forth
    exact .of_token (Nat.le_of_succ_le forth) nofun
  · next found =>
    rw [found] at forth cut
    exact ⟨Nat.le_of_succ_le forth, fun none => cut none _ _ rfl⟩
  · next found =>
    rw [found] at forth
    exact .of_token (Nat.le_of_succ_le forth) nofun

theorem le_templateBody {flaw flaw' : Option SyntaxError} (found : templateBody fuel c flaw = some (after, flaw')) :
    c.offset ≤ after.offset := by
  induction fuel generalizing c flaw with
  | zero => cases found
  | succ fuel ih =>
    unfold templateBody at found
    split at found
    · cases found
    · cases found
      exact Nat.le_refl _
    · cases found
      exact Nat.le_refl _
    · exact Nat.le_trans (Nat.le_of_lt (lt_escape c)) (ih found)
    · exact Nat.le_trans (Nat.le_succ _) (ih found)

theorem le_template (start : Nat) (c : Cursor) : c.offset ≤ (template start c).2.offset := by
  unfold template
  split
  · next found => exact le_templateBody found
  · simp

theorem template_unnamed (start : Nat) (c : Cursor) (name : String) : (template start c).1 ≠ .ident name := by
  unfold template
  split
  · nofun
  · nofun

theorem lt_regex {pattern flags : String} (found : regex c = some (pattern, flags, after)) : c.offset < after.offset := by
  unfold regex at found
  simp only at found
  split at found
  · cases found
  · simp only [Option.some.injEq, Prod.mk.injEq] at found
    obtain ⟨_, _, rfl⟩ := found
    simp [Cursor.span]
    omega

/-! ### Words and numbers -/

theorem EndsWord.of_lt {lo lo' : Nat} {word' : List Char} {result : Except (SyntaxError × Cursor) (List Char × Bool × Cursor)}
    (ends : EndsWord lo word result) (further : lo' < lo) : EndsWord lo' word' result := by
  match result with
  | .error (_, after) => exact Nat.le_trans (Nat.le_of_lt further) ends
  | .ok (_, _, after) =>
    have behind : lo' < after.offset := Nat.lt_of_lt_of_le further ends.1
    exact ⟨Nat.le_of_lt behind, fun _ => behind⟩

theorem wordBody_ends (fuel : Nat) (c : Cursor) (first : Bool) (word : List Char) (escaped : Bool)
    (flaws : List SyntaxError) : EndsWord c.offset word.reverse (wordBody fuel c first word escaped flaws).1 := by
  have stays : EndsWord c.offset word.reverse (.ok (word.reverse, escaped, c)) :=
    ⟨Nat.le_refl _, fun longer => absurd rfl longer⟩
  induction fuel generalizing c first word escaped flaws with
  | zero => exact stays
  | succ fuel ih =>
    have goes (c : Cursor) (first : Bool) (word : List Char) (escaped : Bool) (flaws : List SyntaxError) :
        EndsWord c.offset word.reverse (wordBody fuel c first word escaped flaws).1 :=
      ih c first word escaped flaws ⟨Nat.le_refl _, fun longer => absurd rfl longer⟩
    unfold wordBody
    split
    · exact stays
    · split
      · split
        · have escapes := lt_unicodeEscape (c.drop 1)
          simp only [drop_offset] at escapes
          dsimp only
          split
          · exact Nat.le_of_lt (Nat.lt_of_succ_lt escapes)
          · exact (goes _ _ _ _ _).of_lt (Nat.lt_of_succ_lt escapes)
        · exact Nat.le_succ _
      · split
        · exact (goes _ _ _ _ _).of_lt (Nat.lt_succ_self _)
        · exact stays

theorem word_forth (context : Context) (c : Cursor) : (Scanner.word context c).Forth c.offset := by
  have body := wordBody_ends (c.rest.length + 1) c true [] false []
  unfold Scanner.word
  split
  · next found =>
    rw [found] at body
    exact .of_token body nofun
  · next chars _ after _ found =>
    rw [found] at body
    have room (name : String) (same : Token.ident (String.ofList chars) = .ident name) (named : name ≠ "") :
        c.offset < after.offset := by
      refine body.2 fun empty => named ?_
      cases same
      rw [empty]
      rfl
    simp only
    split
    · exact ⟨body.1, room⟩
    · split
      · exact .of_token body.1 nofun
      · split
        · exact .of_token body.1 nofun
        · exact ⟨body.1, room⟩

theorem finishNumber_forth {token : String → Token} {lo : Nat} (c : Cursor) (forth : lo ≤ after.offset)
    (unnamed : ∀ raw name, token raw ≠ .ident name) : (finishNumber c after token flaws).Forth lo := by
  unfold finishNumber
  split
  · exact .of_token forth nofun
  · exact .of_token forth (unnamed _)

theorem radixNumber_forth (radix : Nat) (c : Cursor) : (radixNumber radix c).Forth c.offset := by
  have forth := le_digits radix (c.drop 2)
  simp only [drop_offset] at forth
  unfold radixNumber
  simp only
  split
  · exact .of_token (by omega) nofun
  · split
    · exact .of_token (by simp only [drop_offset]; omega) nofun
    · exact finishNumber_forth c (by omega) nofun

theorem decimalTail_forth (start c : Cursor) (whole : List Nat) (flaws : List SyntaxError) {lo : Nat} (forth : lo ≤ c.offset) :
    (decimalTail start c whole flaws).Forth lo := by
  unfold decimalTail
  -- Whatever the fraction is, the exponent starts behind it.
  generalize parts : (if c.rest.head? = some '.' then
    let found := digits 10 (c.drop 1)
    (found.values, found.after, flaws ++ separatorFlaw found (c.offset + 1))
    else ([], c, flaws)) = behind
  obtain ⟨fraction, c', flaws'⟩ := behind
  have forth' : lo ≤ c'.offset := by
    split at parts
    · have digits := le_digits 10 (c.drop 1)
      simp only [drop_offset] at digits
      cases parts
      omega
    · cases parts
      exact forth
  dsimp only
  split
  · next e rest here =>
    split
    · split
      · exact .of_token (by simp only [drop_offset]; omega) nofun
      · next sign _ =>
        have exponent (body : Cursor) (behind : c'.offset ≤ body.offset) : lo ≤ (digits 10 body).after.offset :=
          Nat.le_trans forth' (Nat.le_trans behind (le_digits 10 body))
        generalize chosen : (if (decide (sign = '+') || decide (sign = '-')) = true then c'.drop 2 else c'.drop 1) = body
        have behind : c'.offset ≤ body.offset := by
          rw [← chosen]
          split <;> simp
        split
        · exact .of_token (exponent body behind) nofun
        · exact finishNumber_forth start (exponent body behind) nofun
    · exact finishNumber_forth start forth' nofun
  · exact finishNumber_forth start forth' nofun

theorem number_forth (strict : Bool) (c : Cursor) : (number strict c).Forth c.offset := by
  have forth := le_digits 10 c
  unfold number
  dsimp only
  split
  · exact radixNumber_forth 16 c
  · exact radixNumber_forth 16 c
  · exact radixNumber_forth 8 c
  · exact radixNumber_forth 8 c
  · exact radixNumber_forth 2 c
  · exact radixNumber_forth 2 c
  · exact decimalTail_forth c c [] [] (Nat.le_refl _)
  · split
    · exact .of_token (by simp only [drop_offset]; omega) nofun
    · split
      · split
        · exact finishNumber_forth c forth nofun
        · exact decimalTail_forth c _ _ _ forth
      · exact decimalTail_forth c _ _ _ forth

theorem scan_forth (context : Context) (newline : Bool) (c : Cursor) : (scan context newline c).Forth c.offset := by
  have plain {token : Token} {n : Nat} (unnamed : ∀ name, token ≠ .ident name) :
      (Found.plain token (c.drop n)).Forth c.offset := .of_token (Nat.le_add_right _ n) unnamed
  unfold scan
  dsimp only
  split
  · exact .of_token (Nat.le_add_right _ 7) nofun
  · split
    · exact Nat.le_add_right _ 7
    · split
      all_goals first
        | exact plain nofun
        | exact string_forth _ c
        | skip
      · split
        · exact number_forth _ c
        · exact plain nofun
      · split
        · exact Nat.le_add_right _ 3
        · exact plain nofun
      · exact Nat.le_add_right _ 4
      · split
        · exact number_forth _ c
        · split
          · exact word_forth context c
          · exact .of_token (Nat.le_add_right _ 1) nofun
      · exact .of_token (Nat.le_refl _) nofun

end Scanner

/-! ### Tokens -/

/-- Whether a token ends at its start or behind, and behind it if it is a name. -/
def Lexeme.Spans (lexeme : Lexeme) : Prop :=
  lexeme.lo ≤ lexeme.hi ∧ ∀ name, lexeme.token = .ident name → name ≠ "" → lexeme.lo < lexeme.hi

namespace Reader

variable {r r' r'' : Reader} {fuel : Nat} {context : Context} {found : Option Lexeme}

/-- Whether a reader is another one that has read on, and has the same tokens at hand. -/
structure ReadOn (r r' : Reader) : Prop where
  current : r'.current = r.current
  next : r'.next = r.next
  previousHi : r'.previousHi = r.previousHi
  offset : r.cursor.offset ≤ r'.cursor.offset
  problems : r'.problems = [] → r.problems = []

theorem ReadOn.refl (r : Reader) : r.ReadOn r := ⟨rfl, rfl, rfl, Nat.le_refl _, id⟩

theorem ReadOn.trans (first : r.ReadOn r') (second : r'.ReadOn r'') : r.ReadOn r'' :=
  ⟨second.current.trans first.current, second.next.trans first.next, second.previousHi.trans first.previousHi,
    Nat.le_trans first.offset second.offset, first.problems ∘ second.problems⟩

theorem skipBlank_readOn (r : Reader) : r.ReadOn r.skipBlank :=
  ⟨rfl, rfl, rfl, Nat.le_add_right _ _, id⟩

theorem skipLine_readOn {text : Cursor} (behind : r.cursor.offset ≤ text.offset) : r.ReadOn (r.skipLine text) := by
  have further : r.cursor.offset ≤ (text.span (!Text.isLineTerminator ·)).2.offset := Nat.le_trans behind (Nat.le_add_right _ _)
  unfold skipLine
  dsimp only
  split
  · exact ⟨rfl, rfl, rfl, further, id⟩
  · exact ⟨rfl, rfl, rfl, further, id⟩

theorem skipBlock_readOn (skips : r.skipBlock = .ok r') : r.ReadOn r' := by
  unfold skipBlock at skips
  dsimp only at skips
  split at skips
  · cases skips
  · next text rest _ =>
    let read : Reader := { r with
      cursor := ⟨rest, (r.cursor.drop 2).offset + text.length + 2⟩
      newline := r.newline || text.any Text.isLineTerminator }
    have here : r.ReadOn read := ⟨rfl, rfl, rfl, by simp only [read, Scanner.drop_offset]; omega, id⟩
    have behind : r.ReadOn read.skipBlank := here.trans (skipBlank_readOn read)
    split at skips
    · cases skips
      exact ⟨behind.current, behind.next, behind.previousHi, behind.offset, behind.problems⟩
    · cases skips
      exact ⟨behind.current, behind.next, behind.previousHi, behind.offset, behind.problems⟩

theorem skipTrivia_readOn : (∀ r', skipTrivia fuel r = .ok r' → r.ReadOn r') ∧
    ∀ e r', skipTrivia fuel r = .error (e, r') → r.ReadOn r' := by
  induction fuel generalizing r with
  | zero =>
    simp only [skipTrivia, Except.ok.injEq, reduceCtorEq, false_implies, implies_true, and_true]
    rintro r' rfl
    exact .refl r
  | succ fuel ih =>
    have blank := skipBlank_readOn r
    unfold skipTrivia
    dsimp only
    split
    · have line : r.ReadOn (r.skipBlank.skipLine (r.skipBlank.cursor.drop 2)) :=
        blank.trans (skipLine_readOn (Nat.le_add_right _ 2))
      exact ⟨fun r' skips => line.trans (ih.1 r' skips), fun e r' skips => line.trans (ih.2 e r' skips)⟩
    · split
      · next block =>
        have behind := blank.trans (skipBlock_readOn block)
        exact ⟨fun r' skips => behind.trans (ih.1 r' skips), fun e r' skips => behind.trans (ih.2 e r' skips)⟩
      · simp only [reduceCtorEq, false_implies, implies_true, true_and, Except.error.injEq, Prod.mk.injEq, and_imp]
        rintro _ r' _ rfl
        exact blank.trans ⟨rfl, rfl, rfl, Nat.le_add_right _ _, id⟩
    · simp only [Except.ok.injEq, reduceCtorEq, false_implies, implies_true, and_true]
      rintro r' rfl
      exact blank

/-- Whether a token that was read stands between two places, if one was read. -/
def Between (lo : Nat) (found : Option Lexeme) (hi : Nat) : Prop :=
  ∀ lexeme ∈ found, lo ≤ lexeme.lo ∧ lexeme.Spans ∧ lexeme.hi ≤ hi

theorem finish_readOn (r : Reader) : r.ReadOn r.finish := by
  unfold finish
  dsimp only
  split
  · exact ⟨rfl, rfl, rfl, Nat.le_refl _, id⟩
  · exact ⟨rfl, rfl, rfl, Nat.le_refl _, id⟩

theorem readFrom_readOn {lo : Nat} (start : lo ≤ r.cursor.offset) : r.ReadOn (readFrom context lo fuel r).1 ∧
    ((readFrom context lo fuel r).1.problems = [] →
      Between lo (readFrom context lo fuel r).2 (readFrom context lo fuel r).1.cursor.offset) := by
  induction fuel generalizing r with
  | zero => exact ⟨.refl r, fun _ _ => nofun⟩
  | succ fuel ih =>
    have forth := Scanner.scan_forth context r.newline r.cursor
    unfold readFrom
    split
    · exact ⟨finish_readOn r, fun _ _ => nofun⟩
    · split
      · next token after flaws found =>
        rw [found] at forth
        refine ⟨⟨rfl, rfl, rfl, forth.1, fun none => (List.append_eq_nil_iff.mp none).2⟩, fun _ lexeme same => ?_⟩
        cases same
        exact ⟨Nat.le_refl _, ⟨Nat.le_trans start forth.1, fun name same named =>
          Nat.lt_of_le_of_lt start (forth.2 name same named)⟩, Nat.le_refl _⟩
      · next token hi after flaws found =>
        -- A string that is cut off is a problem.
        rw [found] at forth
        have flawed : flaws.reverse ++ r.problems ≠ [] := fun none =>
          forth.2 (List.reverse_eq_nil_iff.mp (List.append_eq_nil_iff.mp none).1)
        exact ⟨⟨rfl, rfl, rfl, forth.1, fun none => absurd none flawed⟩, fun none => absurd none flawed⟩
      · next text flaws found =>
        rw [found] at forth
        have noted : r.ReadOn { r with problems := flaws.reverse ++ r.problems } :=
          ⟨rfl, rfl, rfl, Nat.le_refl _, fun none => (List.append_eq_nil_iff.mp none).2⟩
        have line := noted.trans (skipLine_readOn forth)
        dsimp only
        split
        · next after skips =>
          have behind := line.trans (skipTrivia_readOn.1 after skips)
          obtain ⟨further, between⟩ := @ih after (Nat.le_trans start behind.offset)
          exact ⟨behind.trans further, between⟩
        · next e after skips =>
          have behind := line.trans (skipTrivia_readOn.2 e after skips)
          refine ⟨behind.trans ⟨rfl, rfl, rfl, Nat.le_refl _, id⟩, fun _ lexeme same => ?_⟩
          cases same
          exact ⟨Nat.le_refl _, ⟨Nat.le_trans start behind.offset, nofun⟩, Nat.le_refl _⟩

theorem read_readOn (r : Reader) (context : Context) : r.ReadOn (r.read context).1 ∧
    ((r.read context).1.problems = [] → Between r.cursor.offset (r.read context).2 (r.read context).1.cursor.offset) := by
  unfold read
  split
  · next e after skips =>
    have behind := skipTrivia_readOn.2 e after skips
    refine ⟨behind.trans ⟨rfl, rfl, rfl, Nat.le_refl _, id⟩, fun _ lexeme same => ?_⟩
    cases same
    exact ⟨Nat.le_refl _, ⟨behind.offset, nofun⟩, Nat.le_refl _⟩
  · next r' skips =>
    have behind := skipTrivia_readOn.1 r' skips
    obtain ⟨further, between⟩ : r'.ReadOn (readFrom context r'.cursor.offset (r'.cursor.rest.length + 1) r').1 ∧ _ :=
      readFrom_readOn (Nat.le_refl _)
    refine ⟨behind.trans further, fun none lexeme member => ?_⟩
    obtain ⟨lo, spans, hi⟩ := between none lexeme member
    exact ⟨Nat.le_trans behind.offset lo, spans, hi⟩

end Reader

end Bundler.Script
