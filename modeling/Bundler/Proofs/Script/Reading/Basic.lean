import Bundler.Proofs.Script.Onward

/-!
What all parts of the parser share, as it goes forth: looking at tokens, consuming them, complaining, and nodes made of what
has been read.
-/

namespace Bundler.Script.Parse

open Reader

variable {α β : Type} {P S : Reader → Prop} {Q : α → Reader → Prop} {R : β → Reader → Prop} {lo start : Nat} {stack : List Node}
  {kind : Kind} {children : List Node} {token : Token} {name : String} {m : Mark} {word : Keyword} {close : Mark}

/-! ### Looking -/

theorem current_onward (gives : ∀ context r, (r.look context).problems = [] → P r → S (r.look context)) :
    Onward P current fun found r => S r ∧ r.current = found := by
  refine .surroundings fun context => ?_
  have looks : Onward P (modify (·.look context)) fun _ => S := .change (fun _ => look_problems) (gives context)
  exact looks.bind fun _ => .state fun r => .pure fun r' ⟨holds, same⟩ => ⟨holds, congrArg Reader.current same⟩

theorem current_keeps : Keeps current := fun _ _ =>
  (current_onward fun _ _ fine carries => look_carries carries fine).gives fun _ _ => And.left

theorem token?_onward : Onward (Carries lo stack) token? fun token r => Carries lo stack r ∧ r.token? = token :=
  (current_onward fun _ _ fine carries => look_carries carries fine).bind fun _ =>
    .pure fun _ ⟨carries, same⟩ => ⟨carries, congrArg (Option.map Lexeme.token) same⟩

theorem token?_keeps : Keeps token? := current_keeps.seq fun _ => .pure _

theorem isAt_onward : Onward (Carries lo stack) (isAt token) fun found r =>
    Carries lo stack r ∧ (found = true → r.token? = some token) :=
  token?_onward.bind fun _ => .pure fun _ ⟨carries, same⟩ => ⟨carries, fun found => by simpa [same] using found⟩

theorem isAt_keeps : Keeps (isAt token) := token?_keeps.seq fun _ => .pure _

theorem isAtMark_keeps : Keeps (isAtMark m) := isAt_keeps

theorem isAtWord_keeps : Keeps (isAtWord word) := isAt_keeps

theorem isAtName_keeps : Keeps (isAtName name) := isAt_keeps

theorem isAtEnd_keeps : Keeps isAtEnd := current_keeps.seq fun _ => .pure _

theorem newlineBefore_keeps : Keeps newlineBefore := current_keeps.seq fun _ => .pure _

theorem isAtSemicolon_keeps : Keeps isAtSemicolon := token?_keeps.seq fun token => by
  split
  · exact .pure _
  · exact .pure _
  · exact .pure _
  · exact newlineBefore_keeps

theorem isAtBindable_keeps : Keeps isAtBindable := .surroundings fun _ => token?_keeps.seq fun token => by
  split
  · exact .pure _
  · exact .pure _
  · exact .pure _

/-- A reader that a parser has gone on with, and that is at a word or a mark. -/
def Posed (lo : Nat) (stack : List Node) (r : Reader) : Prop := Carries lo stack r ∧ r.Poised

/-- Whether the current token is known, and behind it there is a word or a mark. -/
def Paired (r : Reader) : Prop := (∃ token, r.token? = some token) ∧ r.advance.Poised

theorem Onward.posed {parser : Parse α} (goes : Onward (Posed lo stack) parser Q) (plain : token.isWordOrMark = true) :
    Onward (fun r => Carries lo stack r ∧ r.token? = some token) parser Q :=
  goes.given fun _ known => ⟨known.1, .of_token known.2 plain⟩

theorem current_posed : Onward (Posed lo stack) current fun _ r =>
    Carries lo stack r ∧ ∃ token, r.token? = some token ∧ token.isWordOrMark = true :=
  (current_onward fun _ _ fine ⟨carries, poised⟩ => ⟨look_carries carries fine, poised.look⟩).gives fun _ _ => And.left

theorem isAt_posed : Onward (Posed lo stack) (isAt token) fun _ => Posed lo stack := by
  have looks : Onward (Posed lo stack) token? fun _ => Posed lo stack :=
    current_posed.bind fun _ => .pure fun _ ⟨carries, _, known, plain⟩ => ⟨carries, .of_token known plain⟩
  exact looks.bind fun _ => .pure fun _ => id

theorem next?_onward : Onward (Posed lo stack) next? fun found r =>
    (Posed lo stack r ∧ ∃ token, r.token? = some token) ∧ r.next = found := by
  refine current_posed.bind fun _ => .surroundings fun context => ?_
  have looks : Onward (fun r => Carries lo stack r ∧ ∃ token, r.token? = some token ∧ token.isWordOrMark = true)
      (modify (·.lookNext context)) fun _ r => Posed lo stack r ∧ ∃ token, r.token? = some token := by
    refine .change (fun _ => lookNext_problems) fun r fine before => ?_
    obtain ⟨carries, token, known, plain⟩ := before
    have known' : (r.lookNext context).token? = some token := by rwa [Reader.token?, lookNext_current]
    obtain ⟨lexeme, current, rfl⟩ := Option.map_eq_some_iff.mp known
    refine ⟨⟨lookNext_carries carries ?_ fine, .of_token known' plain⟩, _, known'⟩
    rw [current]
    rintro _ ⟨⟩
    exact plain
  exact looks.bind fun _ => .state fun r => .pure fun r' given => ⟨given.1, congrArg Reader.next given.2⟩

theorem next?_posed : Onward (Posed lo stack) next? fun _ => Posed lo stack :=
  next?_onward.gives fun _ _ given => given.1.1

/-- Where the token behind the current one is found to be a word or a mark, it is there. -/
theorem isNext_onward (plain : token.isWordOrMark = true) :
    Onward (Posed lo stack) (do return (← next?).any (·.token == token)) fun found r =>
      Posed lo stack r ∧ (found = true → Paired r) :=
  next?_onward.bind fun _ => .pure fun _ ⟨⟨posed, known⟩, same⟩ => ⟨posed, fun found => by
    obtain ⟨lexeme, among, behind⟩ := (Option.any_eq_true _ _).mp found
    exact ⟨known, posed.2.advance (same.trans among) (by rw [beq_iff_eq.mp behind]; exact plain)⟩⟩

theorem isNextMark_onward : Onward (Posed lo stack) (isNextMark m) fun found r => Posed lo stack r ∧ (found = true → Paired r) :=
  isNext_onward rfl

theorem isNextMark_carries : Onward (Posed lo stack) (isNextMark m) fun _ => Carries lo stack :=
  isNextMark_onward.gives fun _ _ given => given.1.1

theorem newlineBeforeNext_onward : Onward (Posed lo stack) newlineBeforeNext fun _ => Posed lo stack :=
  next?_posed.bind fun _ => .pure fun _ => id

/-! ### Offsets -/

theorem lastEnd_rests : Rests lastEnd := .state fun _ => .pure _

theorem lastStart_rests : Rests lastStart := .state fun _ => .pure _

theorem place_rests : Rests place := .state fun _ => .pure _

theorem position_onward : Onward (Carries lo stack) position fun start r => Carries lo stack r ∧ start = r.ahead := by
  have looks : Onward (Carries lo stack) current fun found r => Carries lo stack r ∧ r.current = found :=
    current_onward fun _ _ fine carries => look_carries carries fine
  refine looks.bind fun found => ?_
  cases found with
  | some lexeme =>
    refine .pure fun r given => ?_
    obtain ⟨carries, same⟩ := given
    exact ⟨carries, by simp [ahead, same]⟩
  | none =>
    refine .state fun r => .pure fun r' given => ?_
    obtain ⟨⟨carries, same⟩, rfl⟩ := given
    exact ⟨carries, by simp [ahead, same]⟩

theorem position_keeps : Keeps position := fun _ _ => position_onward.gives fun _ _ => And.left

/-- What starts where the reader is can be read apart from what there is before. -/
theorem Reads.positioned {next : Nat → Parse Node}
    (goes : ∀ start, Onward (Carries start []) (next start) fun n => Carries start [n]) : Reads (position >>= next) := by
  intro lo stack
  refine position_onward.bind fun start => ?_
  refine ((goes start).frame (F := Within lo (stack.reverse.flatMap Node.heads) start ∧ ∀ n ∈ stack, n.Plain)).weaken ?_ ?_
  · rintro r ⟨carries, rfl⟩
    exact ⟨⟨carries.ordered, .nil (Nat.le_refl _), nofun⟩, carries.within, carries.plain⟩
  · rintro n r ⟨carries, before, plain⟩
    refine ⟨carries.ordered, ?_, List.forall_mem_cons.mpr ⟨carries.plain n List.mem_cons_self, plain⟩⟩
    simpa using before.append carries.within

/-! ### Consuming -/

theorem advance_onward (looks : ∀ context r, (r.look context).problems = [] → P r → P (r.look context))
    (gives : ∀ r, P r → S r.advance) : Onward P advance fun _ => S := by
  have drops : Onward P (modify Reader.advance) fun _ => S := by
    refine .change (fun r fine => ?_) fun r _ given => gives r given
    unfold Reader.advance at fine
    split at fine
    · exact fine
    · exact fine
  exact (current_onward looks).bind fun _ => drops.forget

theorem advance_keeps : Keeps advance := fun _ _ =>
  advance_onward (fun _ _ fine carries => look_carries carries fine) fun _ => advance_carries

/-- What is known of the current token is known of the one that is consumed. -/
theorem advance_of_token (gives : ∀ r, Carries lo stack r → r.token? = some token → S r.advance) :
    Onward (fun r => Carries lo stack r ∧ r.token? = some token) advance fun _ => S :=
  advance_onward (fun _ r _ ⟨carries, known⟩ => by rw [look_of_token known]; exact ⟨carries, known⟩)
    fun r ⟨carries, known⟩ => gives r carries known

theorem advance_paired : Onward (fun r => Carries lo stack r ∧ Paired r) advance fun _ => Posed lo stack :=
  advance_onward (fun _ r _ ⟨carries, ⟨token, known⟩, poised⟩ => by
      rw [look_of_token known]
      exact ⟨carries, ⟨token, known⟩, poised⟩)
    fun _ ⟨carries, _, poised⟩ => ⟨advance_carries carries, poised⟩

/-- Names take up room. -/
theorem advance_ident : Onward (fun r => Carries lo stack r ∧ r.token? = some (.ident name)) advance fun _ r =>
    Carries lo stack r ∧ (name = requireName → lo < r.ahead) := by
  refine advance_of_token (S := fun r => Carries lo stack r ∧ (name = requireName → lo < r.ahead)) fun r carries known =>
    ⟨advance_carries carries, fun named => ?_⟩
  obtain ⟨lexeme, current, same⟩ := Option.map_eq_some_iff.mp known
  have spread := carries.ordered.spread
  rw [current] at spread
  have le := carries.within.le
  simp only [ahead, current, Option.map_some, Option.getD_some] at le
  simp only [ahead, Reader.advance, current, Option.map_none, Option.getD_none]
  exact Nat.lt_of_le_of_lt le (spread.2.1.2 name same (by rw [named]; decide))

theorem eat_keeps : Keeps (eat token) := isAt_keeps.seq fun found => by
  cases found
  · exact .pure _
  · exact advance_keeps.seq fun _ => .pure _

theorem eatMark_keeps : Keeps (eatMark m) := eat_keeps

theorem eatWord_keeps : Keeps (eatWord word) := eat_keeps

theorem eatSemicolon_keeps : Keeps eatSemicolon := eatMark_keeps.seq fun found => by
  cases found
  · exact isAtSemicolon_keeps
  · exact .pure _

/-! ### Complaining -/

theorem noteAt_rests {offset : Nat} {problem : Problem} : Rests (noteAt offset problem) := .note _

theorem noteHere_rests {problem : Problem} : Rests (noteHere problem) := place_rests.seq fun _ => noteAt_rests

/-- A complaint about the last token that is only made in some cases. -/
theorem noteLastIf_onward {c : Prop} [Decidable c] {problem : Problem} {next : Unit → Parse α} (goes : Onward P (next ()) Q) :
    Onward P (if c then lastStart >>= fun offset => noteAt offset problem >>= next else next ()) Q :=
  .ite (fun _ => lastStart_rests.bind fun _ => noteAt_rests.bind fun _ => goes) fun _ => goes

/-- Nothing is promised behind a problem. -/
theorem noteHere_onward {problem : Problem} : Onward P (noteHere problem) fun _ _ => False := place_rests.bind fun _ => .note

theorem failAt_rests {offset : Nat} {problem : Problem} : Rests (failAt offset problem : Parse α) := .fail

theorem failAt_onward {offset : Nat} {problem : Problem} : Onward P (failAt offset problem : Parse α) Q := .fail

theorem failHere_onward {problem : Problem} : Onward P (failHere problem : Parse α) Q := place_rests.bind fun _ => failAt_onward

theorem shown_keeps : Keeps shown := token?_keeps.seq fun _ => .pure _

theorem unexpected_onward {wanted : String} : Onward (Carries lo stack) (unexpected wanted : Parse α) Q :=
  shown_keeps.bind fun _ => failHere_onward

theorem require_onward : Onward (Carries lo stack) require fun token r => Carries lo stack r ∧ r.token? = some token := by
  refine token?_onward.bind fun token => ?_
  split
  · exact (advance_keeps.bind fun _ => .fail).forget
  · exact .pure fun _ => id
  · exact (lastEnd_rests.bind fun _ => .fail).forget

theorem require_keeps : Keeps require := fun _ _ => require_onward.gives fun _ _ => And.left

theorem soft?_keeps : Keeps soft? := token?_keeps.seq fun token => by
  split
  · exact advance_keeps.seq fun _ => Rests.fail.keeps
  · exact .pure _

theorem expectToken_keeps : Keeps (expectToken token) := eat_keeps.seq fun found => by
  cases found
  · exact shown_keeps.seq fun _ _ _ => failHere_onward
  · exact .pure _

theorem expect_keeps : Keeps (expect m) := expectToken_keeps

theorem expectWord_keeps : Keeps (expectWord word) := expectToken_keeps

theorem expectSemicolon_keeps : Keeps expectSemicolon := eatSemicolon_keeps.seq fun found => by
  cases found
  · exact shown_keeps.seq fun _ _ _ => failHere_onward
  · exact .pure _

/-! ### Structure -/

/-- Notes may be changed that no token depends on. -/
theorem modify_keeps {f : Reader → Reader} (same : ∀ r, (f r).problems = r.problems ∧ (f r).current = r.current ∧
    (f r).next = r.next ∧ (f r).previousHi = r.previousHi ∧ (f r).cursor.offset = r.cursor.offset) : Keeps (modify f) :=
  fun _ _ => .change (fun r fine => (same r).1 ▸ fine) fun r _ carries =>
    carries.congr (same r).2.1 (same r).2.2.1 (same r).2.2.2.1 (same r).2.2.2.2

theorem Reads.within {parser : Parse Node} {change : Context → Context} (reads : Reads parser) :
    Reads (Parse.within change parser) := fun lo stack => (reads lo stack).within

theorem ReadsAll.within {parser : Parse (List Node)} {change : Context → Context} (reads : ReadsAll parser) :
    ReadsAll (Parse.within change parser) := fun lo stack => (reads lo stack).within

/-! ### Nodes -/

/-- Nodes on top of a stack give way to one that is made of them in the order of the text. -/
theorem node_onward (gathered : Node.gathers kind = true) :
    Onward (Carries lo ((Node.written kind children).reverse ++ stack)) (node kind start children) fun n =>
      Carries lo (n :: stack) := lastEnd_rests.bind fun _ => .pure fun _ => Carries.node gathered

/-- Nodes on top of a stack give way to one that has them behind another. -/
theorem nodeOver_onward {first : Node} (gathered : Node.gathers kind = true)
    (plain : Node.written kind (first :: children) = first :: children) :
    Onward (Carries lo (children.reverse ++ first :: stack)) (node kind start (first :: children)) fun n =>
      Carries lo (n :: stack) :=
  (node_onward gathered).given fun _ carries => by rw [plain]; simpa using carries

theorem mk_onward {hi : Nat} (gathered : Node.gathers kind = true) :
    Onward (Carries lo ((Node.written kind children).reverse ++ stack)) (pure (.mk kind start hi children)) fun n =>
      Carries lo (n :: stack) := .pure fun _ => Carries.node gathered

theorem call_onward {callee : Node} {arguments : List Node} (calls : kind = .call ∨ ∃ optional, kind = .chainCall optional) :
    Onward (Carries lo (arguments.reverse ++ callee :: stack)) (node kind callee.lo (callee :: arguments)) fun n =>
      Carries lo (n :: stack) :=
  lastEnd_rests.bind fun _ => .pure fun _ carries =>
    Carries.fold (Node.heads_of_call calls) (Node.plain_of_call calls) (by simpa using carries)

/-- A call may start in front of its callee. -/
theorem callFrom_onward {callee : Node} {arguments : List Node} (calls : kind = .call ∨ ∃ optional, kind = .chainCall optional) :
    Onward (Carries start (arguments.reverse ++ [callee])) (node kind start (callee :: arguments)) fun n => Carries start [n] := by
  refine lastEnd_rests.bind fun hi => .pure fun r ⟨ordered, within, _⟩ => ⟨ordered, ?_, by simpa using Node.plain_of_call calls⟩
  have within : Within start (callee.heads ++ arguments.flatMap Node.heads) r.ahead := by simpa using within
  have below : (((callee :: arguments).flatMap Node.textual).map Node.lo).Sublist
      (callee.textual.map Node.lo ++ arguments.flatMap Node.heads) := by
    rw [List.flatMap_cons, List.map_append]
    exact .append (.refl _) (Node.flatMap_textual_sublist _)
  rw [List.reverse_singleton, List.flatMap_singleton, Node.heads_eq_of_call calls]
  unfold Node.heads at within
  cases named : isRequireName callee with
  | false =>
    rw [named] at within
    exact within.sublist below
  | true =>
    rw [named] at within
    exact within.lower.sublist (below.cons_cons start)

/-- A name takes up its place if it may be the one of `require`. -/
theorem name_onward : Onward (fun r => Carries start [] r ∧ (name = requireName → start < r.ahead)) (node (.name name) start [])
    fun n => Carries start [n] := by
  refine lastEnd_rests.bind fun hi => .pure fun r ⟨carries, room⟩ => ⟨carries.ordered, ?_, by simpa using Node.plain_name⟩
  rw [List.reverse_singleton, List.flatMap_singleton, Node.heads_name]
  split
  · next named => exact ⟨carries.within.le, List.pairwise_singleton _ _, by simpa using room named⟩
  · exact .nil carries.within.le

theorem otherName_onward (other : name ≠ requireName) : Onward (Carries lo stack) (node (.name name) start []) fun n =>
    Carries lo (n :: stack) := lastEnd_rests.bind fun _ => .pure fun _ => Carries.otherName other

theorem itemsUntil_reads {item : Parse Node} (reads : Reads item) : ReadsAll (itemsUntil close item) := by
  intro lo stack
  refine .loop (I := fun found => Carries lo (found ++ stack)) fun found => ?_
  refine isAtEnd_keeps.bind fun _ => isAtMark_keeps.bind fun _ => .ite (fun _ => ?_) fun _ => ?_
  · exact .pure fun _ => Carries.reversed
  · exact reads.bind fun _ => .pure fun _ => id

/-! ### Reading again -/

/-- Whether a parser makes another node of one, and leaves the reader as it is but for problems. -/
def Rereads (n : Node) (parser : Parse Node) : Prop := ∀ P : Reader → Prop, Onward P parser fun n' r => P r ∧ Node.Beneath [n'] [n]

/-- Whether a parser makes other nodes of some, and leaves the reader as it is but for problems. -/
def RereadsAll (ns : List Node) (parser : Parse (List Node)) : Prop :=
  ∀ P : Reader → Prop, Onward P parser fun ns' r => P r ∧ Node.Beneath ns' ns

theorem Rereads.bind {β : Type} {P : Reader → Prop} {R : β → Reader → Prop} {n : Node} {parser : Parse Node}
    {next : Node → Parse β} (rereads : Rereads n parser)
    (goes : ∀ n', Onward (fun r => P r ∧ Node.Beneath [n'] [n]) (next n') R) : Onward P (parser >>= next) R :=
  Onward.bind (rereads P) goes

theorem RereadsAll.bind {β : Type} {P : Reader → Prop} {R : β → Reader → Prop} {ns : List Node} {parser : Parse (List Node)}
    {next : List Node → Parse β} (rereads : RereadsAll ns parser)
    (goes : ∀ ns', Onward (fun r => P r ∧ Node.Beneath ns' ns) (next ns') R) : Onward P (parser >>= next) R :=
  Onward.bind (rereads P) goes

theorem Rereads.same (n : Node) : Rereads n (pure n) := fun _ => .pure fun _ given => ⟨given, .refl _⟩

end Parse

/-- Whether all parsers of a grammar go forth, and leave what they read behind. -/
structure Grammar.Forth (g : Grammar) : Prop where
  statement : ∀ declarations top, Parse.Reads (g.statement declarations top)
  ifStatement : ∀ lo stack, Parse.Onward (Reader.Carries lo stack) g.ifStatement fun n r =>
    Reader.Carries lo (n :: stack) r ∧ n.kind = .if
  assignment : Parse.Reads g.assignment
  unary : Parse.Reads g.unary
  operators : ∀ left precedence lo stack, Parse.Onward (Reader.Carries lo (left :: stack)) (g.operators left precedence)
    fun n => Reader.Carries lo (n :: stack)
  leftHand : Parse.Reads g.leftHand
  newExpression : Parse.Reads g.newExpression
  bindingPattern : Parse.Reads g.bindingPattern
  pattern : ∀ role n, Parse.Rereads n (g.pattern role n)

end Bundler.Script
