import Bundler.Proofs.Script.Carries
import Bundler.Script.Parse

/-!
Parsing goes through a source from its start to its end. A parser leaves behind the nodes that it has made, and whatever
has been read stands in front of what is ahead: so the calls of `require` in a tree stand in the source as they stand in
the tree. This holds for sources that nothing is wrong with, since a parser may go on in disorder behind a problem.
-/

namespace Bundler.Script

namespace Parse

variable {α β σ : Type} {P P' : Reader → Prop} {Q Q' : α → Reader → Prop} {R : β → Reader → Prop} {parser : Parse α}
  {next : α → Parse β} {lo : Nat} {stack : List Node}

/-- What a parser makes of a reader with `P` if it leaves no problem behind: there has been none before, and where it gives
a value, the reader has `Q`. -/
def Onward (P : Reader → Prop) (parser : Parse α) (Q : α → Reader → Prop) : Prop :=
  ∀ context r r' result, (parser.run context).run.run r = (result, r') → r'.problems = [] →
    r.problems = [] ∧ ∀ a, result = .ok a → P r → Q a r'

namespace Onward

theorem pure {a : α} (gives : ∀ r, P r → Q a r) : Onward P (Pure.pure a) Q := by
  rintro _ r _ _ ran fine
  cases ran
  exact ⟨fine, fun _ same holds => by cases same; exact gives r holds⟩

theorem fail {e : SyntaxError} : Onward P (throw e) Q := by
  rintro _ r _ _ ran fine
  cases ran
  exact ⟨fine, nofun⟩

theorem bind (first : Onward P parser Q) (second : ∀ a, Onward (Q a) (next a) R) : Onward P (parser >>= next) R := by
  intro context r r' result ran fine
  rw [ReaderT.run_bind, ExceptT.run_bind, StateT.run_bind] at ran
  rcases runs : (parser.run context).run.run r with ⟨e | a, middle⟩
  · rw [runs] at ran
    cases ran
    exact ⟨(first _ _ _ _ runs fine).1, nofun⟩
  · rw [runs] at ran
    obtain ⟨fine', holds⟩ := second a _ _ _ _ ran fine
    obtain ⟨fine'', holds'⟩ := first _ _ _ _ runs fine'
    exact ⟨fine'', fun b same given => holds b same (holds' a rfl given)⟩

theorem weaken (goes : Onward P parser Q) (given : ∀ r, P' r → P r) (gives : ∀ a r, Q a r → Q' a r) : Onward P' parser Q' :=
  fun _ _ _ _ ran fine => (goes _ _ _ _ ran fine).imp_right fun holds a same given' =>
    gives a _ (holds a same (given _ given'))

theorem given (goes : Onward P parser Q) (holds : ∀ r, P' r → P r) : Onward P' parser Q := goes.weaken holds fun _ _ => id

theorem gives (goes : Onward P parser Q) (holds : ∀ a r, Q a r → Q' a r) : Onward P parser Q' := goes.weaken (fun _ => id) holds

/-- What goes on with the surroundings goes on with any. -/
theorem surroundings {next : Context → Parse β} (goes : ∀ context, Onward P (next context) R) :
    Onward P (read >>= next) R := fun context => goes context context

/-- What goes on with the reader goes on with any. -/
theorem state {next : Reader → Parse β} (goes : ∀ r, Onward (fun r' => P r' ∧ r' = r) (next r) R) :
    Onward P (get >>= next) R := fun context r r' result ran fine =>
  (goes r context r r' result ran fine).imp_right fun holds b same given => holds b same ⟨given, rfl⟩

theorem within {change : Context → Context} (goes : Onward P parser Q) : Onward P (Parse.within change parser) Q :=
  fun context => goes (change context)

theorem change {f : Reader → Reader} {S : Unit → Reader → Prop} (fine : ∀ r, (f r).problems = [] → r.problems = [])
    (gives : ∀ r, (f r).problems = [] → P r → S () (f r)) : Onward P (modify f : Parse Unit) S := by
  rintro _ r _ _ ran none
  cases ran
  exact ⟨fine r none, fun _ _ given => gives r none given⟩

/-- Nothing is promised behind a problem. -/
theorem note {e : SyntaxError} {S : Unit → Reader → Prop} : Onward P (Parse.note e) S := by
  rintro _ r _ _ ran none
  cases ran
  cases none

theorem attempt (goes : Onward P parser Q) :
    Onward P (Parse.attempt parser) fun result r => ∀ a, result = .ok a → Q a r := by
  intro context r r' result ran fine
  have runs : ((Parse.attempt parser).run context).run.run r =
      (.ok ((parser.run context).run.run r).1, ((parser.run context).run.run r).2) := by
    let body : Parse (Except SyntaxError α) := do return .ok (← parser)
    let handle (e : SyntaxError) : Parse (Except SyntaxError α) := do return .error e
    change (ExceptT.tryCatch (body.run context) fun e => (handle e).run context).run.run r = _
    rw [ExceptT.tryCatch, ExceptT.run_mk, StateT.run_bind]
    have inner : StateT.run (body.run context) r = (((parser.run context).run.run r).1.map .ok, ((parser.run context).run.run r).2) := by
      change (body.run context).run.run r = _
      simp only [body]
      rw [ReaderT.run_bind, ExceptT.run_bind, StateT.run_bind]
      rcases (parser.run context).run.run r with ⟨_ | _, _⟩ <;> rfl
    rw [inner]
    rcases (parser.run context).run.run r with ⟨_ | _, _⟩ <;> rfl
  rw [runs] at ran
  cases ran
  obtain ⟨fine', holds⟩ := goes _ _ _ _ rfl fine
  exact ⟨fine', fun value same given a given' => holds a (by cases same; exact given') given⟩

/-- A step that keeps an invariant, again and again. -/
theorem loop {step : σ → Parse (σ ⊕ α)} {start : σ} {I : σ → Reader → Prop}
    (steps : ∀ state, Onward (I state) (step state) fun result r => result.elim (I · r) (Q · r)) :
    Onward (I start) (Parse.loop start step) Q := by
  have repeats (fuel : Nat) (state : σ) : Onward (I state) (repeatFrom step fuel state) Q := by
    induction fuel generalizing state with
    | zero => exact fail
    | succ fuel ih =>
      refine (steps state).bind fun result => ?_
      cases result with
      | inl state => exact ih state
      | inr a => exact pure fun _ => id
  exact state fun r => (repeats r.limit start).given fun _ => And.left

theorem ite {c : Prop} [Decidable c] {other : Parse α} (yes : c → Onward P parser Q) (no : ¬ c → Onward P other Q) :
    Onward P (if c then parser else other) Q := by
  split
  · next holds => exact yes holds
  · next fails => exact no fails

theorem forget {F : Reader → Prop} (goes : Onward P parser Q) : Onward (fun r => P r ∧ F r) parser Q :=
  goes.given fun _ => And.left

/-- What does not depend on the reader stays as it is. -/
theorem frame {F : Prop} (goes : Onward P parser Q) : Onward (fun r => P r ∧ F) parser fun a r => Q a r ∧ F :=
  fun _ _ _ _ ran fine => (goes _ _ _ _ ran fine).imp_right fun holds a same given => ⟨holds a same given.1, given.2⟩

/-- Wherever a parser starts, problems stay. -/
theorem blind (goes : Onward P parser Q) : Onward P' parser fun _ _ => True := fun _ _ _ _ ran fine =>
  (goes _ _ _ _ ran fine).imp_right fun _ _ _ _ => trivial

/-- From readers that there are none of, all that counts is that problems stay. -/
theorem never (goes : Onward P parser Q) : Onward (fun _ => False) parser Q' := fun _ _ _ _ ran fine =>
  (goes _ _ _ _ ran fine).imp_right fun _ _ _ => False.elim

end Onward

/-- What a parser makes of one reader, as `Onward` says it of all. -/
def From (r : Reader) (given : Prop) (parser : Parse α) (Q : α → Reader → Prop) : Prop :=
  ∀ context r' result, (parser.run context).run.run r = (result, r') → r'.problems = [] →
    r.problems = [] ∧ ∀ a, result = .ok a → given → Q a r'

theorem Onward.get {next : Reader → Parse β} (goes : ∀ r, From r (P r) (next r) R) : Onward P (get >>= next) R :=
  fun context r => goes r context

theorem Onward.here {r : Reader} {given : Prop} (goes : Onward P parser Q) (gives : given → P r) : From r given parser Q :=
  fun _ _ _ ran fine => (goes _ _ _ _ ran fine).imp_right fun holds a same given => holds a same (gives given)

theorem From.replace {r r' : Reader} {given : Prop} {next : Unit → Parse β} (fine : r'.problems = [] → r.problems = [])
    (gives : given → P r') (goes : Onward P (next ()) R) : From r given (set r' >>= next) R := fun _ _ _ ran none =>
  (goes _ _ _ _ ran none).imp fine fun holds a same given => holds a same (gives given)

theorem From.replacing {r r' : Reader} {given : Prop} {S : Unit → Reader → Prop} (fine : r'.problems = [] → r.problems = [])
    (gives : given → S () r') : From r given (set r' : Parse Unit) S := by
  rintro _ _ _ ran none
  cases ran
  exact ⟨fine none, fun _ _ given => gives given⟩

/-! ### Parsers that leave nodes behind -/

open Reader

/-- Whether a parser leaves the reader as it is but for problems. -/
def Rests (parser : Parse α) : Prop := ∀ P, Onward P parser fun _ => P

/-- Whether a parser goes forth and leaves no node. -/
def Keeps (parser : Parse α) : Prop := ∀ lo stack, Onward (Carries lo stack) parser fun _ => Carries lo stack

/-- Whether a parser goes forth and leaves a node. -/
def Reads (parser : Parse Node) : Prop := ∀ lo stack, Onward (Carries lo stack) parser fun n => Carries lo (n :: stack)

/-- Whether a parser goes forth and leaves some nodes, the last on top. -/
def ReadsAll (parser : Parse (List Node)) : Prop :=
  ∀ lo stack, Onward (Carries lo stack) parser fun ns => Carries lo (ns.reverse ++ stack)

theorem Rests.bind (rests : Rests parser) (goes : ∀ a, Onward P (next a) R) : Onward P (parser >>= next) R :=
  Onward.bind (rests P) goes

theorem Rests.keeps (rests : Rests parser) : Keeps parser := fun lo stack => rests (Carries lo stack)

/-- A check that is only made in some cases. -/
theorem Rests.when {c : Prop} [Decidable c] {check : Parse Unit} {next : Unit → Parse α} (rests : Rests check)
    (goes : Onward P (next ()) Q) : Onward P (if c then check >>= next else next ()) Q :=
  .ite (fun _ => rests.bind fun _ => goes) fun _ => goes

/-- A check that is only made in some cases, and comes last. -/
theorem Rests.last {c : Prop} [Decidable c] {check : Parse Unit} (rests : Rests check) :
    Rests (if c then check else Pure.pure ()) :=
  fun P => .ite (fun _ => rests P) fun _ => .pure fun _ => id

theorem Keeps.bind (keeps : Keeps parser) (goes : ∀ a, Onward (Carries lo stack) (next a) R) :
    Onward (Carries lo stack) (parser >>= next) R := Onward.bind (keeps lo stack) goes

theorem Reads.bind {parser : Parse Node} {next : Node → Parse β} (reads : Reads parser)
    (goes : ∀ n, Onward (Carries lo (n :: stack)) (next n) R) : Onward (Carries lo stack) (parser >>= next) R :=
  Onward.bind (reads lo stack) goes

theorem ReadsAll.bind {parser : Parse (List Node)} {next : List Node → Parse β} (reads : ReadsAll parser)
    (goes : ∀ ns, Onward (Carries lo (ns.reverse ++ stack)) (next ns) R) : Onward (Carries lo stack) (parser >>= next) R :=
  Onward.bind (reads lo stack) goes

namespace Rests

theorem pure (a : α) : Rests (Pure.pure a) := fun _ => .pure fun _ => id

theorem fail {e : SyntaxError} : Rests (throw e : Parse α) := fun _ => .fail

theorem note (e : SyntaxError) : Rests (Parse.note e) := fun _ => .note

theorem seq {next : α → Parse β} (first : Rests parser) (second : ∀ a, Rests (next a)) : Rests (parser >>= next) :=
  fun P => first.bind fun a => second a P

theorem surroundings {next : Context → Parse β} (goes : ∀ context, Rests (next context)) : Rests (read >>= next) :=
  fun P => .surroundings fun context => goes context P

theorem state {next : Reader → Parse β} (goes : ∀ r, Rests (next r)) : Rests (get >>= next) :=
  fun P => .state fun r => (goes r P).forget

theorem forM {check : β → Parse PUnit} (ns : List β) (checks : ∀ n ∈ ns, Rests (check n)) : Rests (ns.forM check) := by
  induction ns with
  | nil => exact pure _
  | cons n rest ih =>
    exact (checks n List.mem_cons_self).seq fun _ => ih fun other among => checks other (List.mem_cons_of_mem _ among)

end Rests

namespace Keeps

variable {one other : Parse Bool}

theorem pure (a : α) : Keeps (Pure.pure a) := (Rests.pure a).keeps

theorem seq {next : α → Parse β} (first : Keeps parser) (second : ∀ a, Keeps (next a)) : Keeps (parser >>= next) :=
  fun lo stack => first.bind fun a => second a lo stack

theorem surroundings {next : Context → Parse β} (goes : ∀ context, Keeps (next context)) : Keeps (read >>= next) :=
  fun lo stack => .surroundings fun context => goes context lo stack

theorem both (first : Keeps one) (second : Keeps other) : Keeps (one <&&> other) :=
  first.seq fun b => by cases b; exacts [pure _, second]

theorem either (first : Keeps one) (second : Keeps other) : Keeps (one <||> other) :=
  first.seq fun b => by cases b; exacts [second, pure _]

end Keeps

end Parse

end Bundler.Script
