import Bundler.Proofs.Script.Offset
import Bundler.Proofs.Script.Order
import Bundler.Script.Reader
import Mathlib.Data.List.Flatten

/-!
The places that nodes take up in a source, and a reader in front of which a stack of nodes stands. A node takes up the places
of the calls of `require` in it, and its own if it is that name, since a call of it starts there.
-/

namespace Bundler.Script

/-- Whether offsets stand one behind another, from one place on and in front of another. -/
structure Within (lo : Nat) (offsets : List Nat) (hi : Nat) : Prop where
  le : lo ≤ hi
  sorted : offsets.Pairwise (· < ·)
  bounds : ∀ offset ∈ offsets, lo ≤ offset ∧ offset < hi

namespace Within

variable {lo middle hi : Nat} {one other : List Nat}

theorem nil (le : lo ≤ hi) : Within lo [] hi := ⟨le, .nil, nofun⟩

theorem append (first : Within lo one middle) (second : Within middle other hi) : Within lo (one ++ other) hi := by
  refine ⟨Nat.le_trans first.le second.le, List.pairwise_append.mpr ⟨first.sorted, second.sorted, fun x left y right => ?_⟩,
    fun x member => ?_⟩
  · exact Nat.lt_of_lt_of_le (first.bounds x left).2 (second.bounds y right).1
  · rcases List.mem_append.mp member with left | right
    · exact ⟨(first.bounds x left).1, Nat.lt_of_lt_of_le (first.bounds x left).2 second.le⟩
    · exact ⟨Nat.le_trans first.le (second.bounds x right).1, (second.bounds x right).2⟩

theorem mono (within : Within lo one middle) (le : middle ≤ hi) : Within lo one hi := by
  have both := within.append (nil le)
  rwa [List.append_nil] at both

/-- The first offset may be another one in front of it. -/
theorem lower {offset : Nat} (within : Within lo (offset :: one) hi) : Within lo (lo :: one) hi := by
  have first := within.bounds offset List.mem_cons_self
  have behind (x : Nat) (among : x ∈ one) : lo < x :=
    Nat.lt_of_le_of_lt first.1 ((List.pairwise_cons.mp within.sorted).1 x among)
  refine ⟨within.le, List.pairwise_cons.mpr ⟨behind, (List.pairwise_cons.mp within.sorted).2⟩, ?_⟩
  refine List.forall_mem_cons.mpr ⟨⟨Nat.le_refl _, Nat.lt_of_le_of_lt first.1 first.2⟩, fun x among => ?_⟩
  exact within.bounds x (List.mem_cons_of_mem _ among)

theorem sublist (within : Within lo one hi) (sub : other.Sublist one) : Within lo other hi :=
  ⟨within.le, within.sorted.sublist sub, fun x member => within.bounds x (sub.subset member)⟩

end Within

namespace Node

variable {kind : Kind} {lo hi : Nat} {children ns ns' ns'' : List Node} {n n' callee : Node}

/-- The offsets that a node takes up: its own if it may yet be called, and those of the calls in it. -/
def heads (n : Node) : List Nat := (if isRequireName n then [n.lo] else []) ++ n.textual.map Node.lo

/-- Whether a node has no calls below it if it is a name. -/
def Plain (n : Node) : Prop := ∀ text, n.kind = .name text → n.textual = []

/-- Whether nodes of a kind take up no more than what is below them. -/
def gathers : Kind → Bool
  | .name _ | .call | .chainCall _ => false
  | _ => true

theorem flatMap_textual_sublist (ns : List Node) : ((ns.flatMap textual).map Node.lo).Sublist (ns.flatMap heads) := by
  rw [List.map_flatMap]
  exact .flatMap_right ns fun n _ => List.sublist_append_right _ _

theorem heads_eq_of_gathers (gathered : gathers kind = true) :
    (mk kind lo hi children).heads = ((written kind children).flatMap textual).map Node.lo := by
  have unnamed : isRequireName (mk kind lo hi children) = false := by
    cases kind <;> first | rfl | cases gathered
  have uncalled : isSite (mk kind lo hi children) = false := by
    cases kind <;> first | rfl | cases gathered
  rw [heads, unnamed, textual_mk, uncalled]
  rfl

theorem heads_of_gathers (gathered : gathers kind = true) :
    (mk kind lo hi children).heads.Sublist ((written kind children).flatMap heads) :=
  heads_eq_of_gathers gathered ▸ flatMap_textual_sublist _

theorem plain_of_gathers (gathered : gathers kind = true) : (mk kind lo hi children).Plain := by
  rintro text rfl
  cases gathered

theorem heads_eq_of_call (calls : kind = .call ∨ ∃ optional, kind = .chainCall optional) {arguments : List Node} :
    (mk kind lo hi (callee :: arguments)).heads =
      (if isRequireName callee then [lo] else []) ++ ((callee :: arguments).flatMap textual).map Node.lo := by
  have unnamed : isRequireName (mk kind lo hi (callee :: arguments)) = false := by
    rcases calls with rfl | ⟨_, rfl⟩ <;> rfl
  have site : isSite (mk kind lo hi (callee :: arguments)) = isRequireName callee := by
    rcases calls with rfl | ⟨_, rfl⟩ <;> rfl
  have same : written kind (callee :: arguments) = callee :: arguments := by
    rcases calls with rfl | ⟨_, rfl⟩ <;> rfl
  rw [heads, unnamed, textual_mk, site, same, List.map_append]
  cases isRequireName callee <;> rfl

/-- A call takes up the place of its callee if it starts there. -/
theorem heads_of_call (calls : kind = .call ∨ ∃ optional, kind = .chainCall optional) {arguments : List Node} :
    (mk kind callee.lo hi (callee :: arguments)).heads.Sublist ((callee :: arguments).flatMap heads) := by
  rw [heads_eq_of_call calls, List.flatMap_cons, List.map_append, ← List.append_assoc, List.flatMap_cons]
  exact .append (.refl _) (flatMap_textual_sublist _)

theorem plain_of_call (calls : kind = .call ∨ ∃ optional, kind = .chainCall optional) : (mk kind lo hi children).Plain := by
  rintro text rfl
  rcases calls with calls | ⟨_, calls⟩ <;> cases calls

theorem heads_name {name : String} : (mk (.name name) lo hi []).heads = if name = requireName then [lo] else [] := by
  simp [heads, textual_mk, written, isSite, isRequireName, Node.kind, Node.lo]

theorem plain_name {name : String} : (mk (.name name) lo hi []).Plain := fun _ _ => by
  simp [textual_mk, written, isSite]

/-- Whether nodes take up no more than others, and have no more calls. -/
structure Beneath (ns ns' : List Node) : Prop where
  plain : (∀ n ∈ ns', n.Plain) → ∀ n ∈ ns, n.Plain
  heads : (ns.flatMap Node.heads).Sublist (ns'.flatMap Node.heads)
  textual : ((ns.flatMap Node.textual).map Node.lo).Sublist ((ns'.flatMap Node.textual).map Node.lo)

namespace Beneath

theorem of_sublist (sub : ns.Sublist ns') : Beneath ns ns' :=
  ⟨fun plain n among => plain n (sub.subset among), sub.flatMap _, (sub.flatMap _).map _⟩

theorem refl (ns : List Node) : Beneath ns ns := of_sublist (.refl ns)

theorem trans (first : Beneath ns ns') (second : Beneath ns' ns'') : Beneath ns ns'' :=
  ⟨first.plain ∘ second.plain, first.heads.trans second.heads, first.textual.trans second.textual⟩

theorem cons (first : Beneath [n] [n']) (rest : Beneath ns ns') : Beneath (n :: ns) (n' :: ns') := by
  obtain ⟨plain, heads, textual⟩ := first
  rw [List.flatMap_singleton, List.flatMap_singleton] at heads textual
  refine ⟨fun all => ?_, ?_, ?_⟩
  · obtain ⟨one, others⟩ := List.forall_mem_cons.mp all
    exact List.forall_mem_cons.mpr ⟨plain (by simpa using one) n List.mem_cons_self, rest.plain others⟩
  · rw [List.flatMap_cons, List.flatMap_cons]
    exact heads.append rest.heads
  · rw [List.flatMap_cons, List.flatMap_cons, List.map_append, List.map_append]
    exact textual.append rest.textual

/-- A node that is read again from what is below another one. -/
theorem node (gathered : gathers kind = true) (below : Beneath (written kind children) (written n.kind n.children)) :
    Beneath [.mk kind lo hi children] [n] := by
  have whole : ((written n.kind n.children).flatMap Node.textual).Sublist n.textual := by
    cases n
    rw [textual_mk]
    exact List.sublist_append_right _ _
  have sub : (Node.mk kind lo hi children).heads.Sublist (n.textual.map Node.lo) := by
    rw [heads_eq_of_gathers gathered]
    exact below.textual.trans (whole.map _)
  refine ⟨fun _ => by simpa using plain_of_gathers gathered, ?_, ?_⟩
  · rw [List.flatMap_singleton, List.flatMap_singleton]
    exact sub.trans (List.sublist_append_right _ _)
  · rw [List.flatMap_singleton, List.flatMap_singleton]
    exact (List.sublist_append_right _ _).trans sub

end Beneath

end Node

/-- Whether tokens stand one behind another between two places. -/
def Spread : Nat → List Lexeme → Nat → Prop
  | lo, [], hi => lo ≤ hi
  | lo, lexeme :: rest, hi => lo ≤ lexeme.lo ∧ lexeme.Spans ∧ Spread lexeme.hi rest hi

namespace Spread

variable {lo middle hi : Nat} {lexemes others : List Lexeme} {found : Option Lexeme}

theorem le (spread : Spread lo lexemes hi) : lo ≤ hi := by
  induction lexemes generalizing lo with
  | nil => exact spread
  | cons lexeme rest ih => exact Nat.le_trans spread.1 (Nat.le_trans spread.2.1.1 (ih spread.2.2))

theorem append (spread : Spread lo lexemes middle)
    (more : Spread middle others hi) : Spread lo (lexemes ++ others) hi := by
  induction lexemes generalizing lo with
  | nil =>
    cases others with
    | nil => exact Nat.le_trans spread more
    | cons lexeme rest => exact ⟨Nat.le_trans spread more.1, more.2⟩
  | cons lexeme rest ih => exact ⟨spread.1, spread.2.1, ih spread.2.2⟩

/-- A token that was read stands behind those at hand. -/
theorem read (spread : Spread lo lexemes middle)
    (behind : middle ≤ hi) (between : Reader.Between middle found hi) : Spread lo (lexemes ++ found.toList) hi := by
  refine spread.append ?_
  cases found with
  | none => exact behind
  | some lexeme => exact between lexeme rfl

end Spread

/-- Whether a token is a word or a mark. Only behind these the reader looks ahead, so that others can be read again. -/
def Token.isWordOrMark : Token → Bool
  | .ident _ | .keyword _ | .mark _ => true
  | _ => false

namespace Reader

variable {r r' : Reader} {lo start hi : Nat} {kind : Kind} {children stack stack' : List Node} {context : Context}

/-- The place that everything to come starts at or behind. -/
def ahead (r : Reader) : Nat := (r.current.map Lexeme.lo).getD r.previousHi

/-- Whether the tokens at hand stand one behind another, between what has been consumed and what has not been read. -/
structure Ordered (r : Reader) : Prop where
  spread : Spread r.previousHi (r.current.toList ++ r.next.toList) r.cursor.offset
  wordOrMark : r.next ≠ none → ∀ lexeme ∈ r.current, lexeme.token.isWordOrMark = true

/-- Whether the nodes on a stack, the newest first, take up places one behind another from a place on, in front of what
is ahead. -/
structure Carries (lo : Nat) (stack : List Node) (r : Reader) : Prop where
  ordered : r.Ordered
  within : Within lo (stack.reverse.flatMap Node.heads) r.ahead
  plain : ∀ n ∈ stack, n.Plain

theorem Carries.sub (carries : Carries lo stack r)
    (sub : (stack'.reverse.flatMap Node.heads).Sublist (stack.reverse.flatMap Node.heads)) (plain : ∀ n ∈ stack', n.Plain) :
    Carries lo stack' r := ⟨carries.ordered, carries.within.sublist sub, plain⟩

/-- Nodes on top of a stack give way to one that takes up no more. -/
theorem Carries.fold {n : Node} {parts : List Node} (sub : n.heads.Sublist (parts.flatMap Node.heads)) (plain : n.Plain)
    (carries : Carries lo (parts.reverse ++ stack) r) : Carries lo (n :: stack) r := by
  refine carries.sub ?_ (List.forall_mem_cons.mpr ⟨plain, fun other among => carries.plain other ?_⟩)
  · simpa using sub.append_left (stack.reverse.flatMap Node.heads)
  · exact List.mem_append_right _ among

theorem Carries.sublist (carries : Carries lo stack r) (sub : stack'.Sublist stack) : Carries lo stack' r :=
  carries.sub (sub.reverse.flatMap _) fun n among => carries.plain n (sub.subset among)

theorem Carries.drop {n : Node} (carries : Carries lo (n :: stack) r) : Carries lo stack r :=
  carries.sublist (List.sublist_cons_self _ _)

theorem Carries.node (gathered : Node.gathers kind = true) (carries : Carries lo ((Node.written kind children).reverse ++ stack) r) :
    Carries lo (.mk kind start hi children :: stack) r :=
  carries.fold (Node.heads_of_gathers gathered) (Node.plain_of_gathers gathered)

/-- A node without children takes up nothing unless it is a name. -/
theorem Carries.leaf (gathered : Node.gathers kind = true) (carries : Carries lo stack r) :
    Carries lo (.mk kind start hi [] :: stack) r := by
  have below : Node.written kind ([] : List Node) = [] := by cases kind <;> rfl
  refine Carries.node gathered ?_
  rwa [below]

theorem Carries.absent : Carries lo stack r → Carries lo (.none :: stack) r := Carries.leaf rfl

/-- A name that is not the one of `require` takes up nothing. -/
theorem Carries.otherName {name : String} (other : name ≠ requireName) (carries : Carries lo stack r) :
    Carries lo (.mk (.name name) start hi [] :: stack) r := by
  have nothing : (Node.mk (.name name) start hi []).heads.Sublist (([] : List Node).flatMap Node.heads) := by
    rw [Node.heads_name, if_neg other]
    exact .refl _
  exact Carries.fold nothing Node.plain_name carries

theorem Carries.reversed {found : List Node} (carries : Carries lo (found ++ stack) r) :
    Carries lo (found.reverse.reverse ++ stack) r := by rwa [List.reverse_reverse]

/-- What is read again stands where it stood before. -/
theorem Carries.beneath {ns ns' : List Node} (beneath : Node.Beneath ns' ns) (carries : Carries lo (ns.reverse ++ stack) r) :
    Carries lo (ns'.reverse ++ stack) r := by
  obtain ⟨before, others⟩ : (∀ n ∈ ns, n.Plain) ∧ ∀ n ∈ stack, n.Plain := by
    simpa [or_imp, forall_and] using carries.plain
  refine carries.sub ?_ ?_
  · simpa using beneath.heads.append_left (stack.reverse.flatMap Node.heads)
  · simpa [or_imp, forall_and] using ⟨beneath.plain before, others⟩

/-- A chain of branches, the last one first, becomes one branch. Each is a statement with `if` that lacks its other branch. -/
theorem Carries.branch {chain : List Node} {last : Node} (branches : ∀ one ∈ chain, one.kind = .if)
    (carries : Carries lo (last :: (chain ++ stack)) r) :
    Carries lo (chain.foldl (fun (rest : Node) (one : Node) =>
      .mk one.kind one.lo one.hi (one.children.dropLast ++ [rest])) last :: stack) r := by
  induction chain generalizing last with
  | nil => exact carries
  | cons one chain ih =>
    obtain ⟨branch, branches⟩ := List.forall_mem_cons.mp branches
    refine ih branches ?_
    obtain ⟨kind, start, hi, children⟩ := one
    obtain rfl : kind = .if := branch
    have below : (children.dropLast.flatMap Node.textual).Sublist (children.flatMap Node.textual) :=
      (List.dropLast_sublist children).flatMap _
    have sub : (Node.mk .if start hi (children.dropLast ++ [last])).heads.Sublist
        ([.mk .if start hi children, last].flatMap Node.heads) := by
      rw [Node.heads_eq_of_gathers rfl, List.flatMap_cons, Node.heads_eq_of_gathers rfl, List.flatMap_singleton]
      change (((children.dropLast ++ [last]).flatMap Node.textual).map Node.lo).Sublist
        ((children.flatMap Node.textual).map Node.lo ++ last.heads)
      rw [List.flatMap_append, List.flatMap_singleton, List.map_append]
      exact (below.map _).append (List.sublist_append_right _ _)
    exact Carries.fold sub (Node.plain_of_gathers rfl) carries

/-- What a parser carries does not depend on what is noted. -/
theorem Carries.congr (carries : Carries lo stack r) (current : r'.current = r.current) (next : r'.next = r.next)
    (previousHi : r'.previousHi = r.previousHi) (offset : r'.cursor.offset = r.cursor.offset) : Carries lo stack r' := by
  obtain ⟨⟨spread, wordOrMark⟩, within, plain⟩ := carries
  refine ⟨⟨?_, ?_⟩, ?_, plain⟩
  · rwa [current, next, previousHi, offset]
  · rwa [current, next]
  · rwa [ahead, current, previousHi]

/-- What is ahead is not in front of what has been consumed. -/
theorem Ordered.previousHi_le (ordered : r.Ordered) : r.previousHi ≤ r.ahead := by
  obtain ⟨spread, _⟩ := ordered
  unfold ahead
  cases current : r.current with
  | none => exact Nat.le_refl _
  | some lexeme =>
    rw [current] at spread
    exact spread.1

/-! ### Looking and consuming -/

/-- A problem that there was before a look is there behind it. -/
theorem look_problems (fine : (r.look context).problems = []) : r.problems = [] := by
  unfold look at fine
  cases current : r.current with
  | some lexeme => simpa only [current] using fine
  | none =>
    cases next : r.next with
    | some lexeme => simpa only [current, next] using fine
    | none =>
      simp only [current, next] at fine
      exact (read_readOn r context).1.problems fine

theorem lookNext_problems (fine : (r.lookNext context).problems = []) : r.problems = [] := by
  unfold lookNext at fine
  cases next : r.next with
  | some lexeme => simpa only [next] using fine
  | none =>
    simp only [next] at fine
    exact (read_readOn r context).1.problems fine

theorem look_carries (carries : Carries lo stack r) (fine : (r.look context).problems = []) :
    Carries lo stack (r.look context) := by
  obtain ⟨⟨spread, wordOrMark⟩, within, plain⟩ := carries
  unfold look at fine ⊢
  cases current : r.current with
  | some lexeme => exact ⟨⟨spread, wordOrMark⟩, within, plain⟩
  | none =>
    have ahead : r.ahead = r.previousHi := by simp [Reader.ahead, current]
    rw [current] at spread
    cases next : r.next with
    | some lexeme =>
      rw [next] at spread
      refine ⟨⟨?_, by simp⟩, ?_, plain⟩
      · simpa using spread
      · rw [ahead] at within
        exact within.mono spread.1
    | none =>
      obtain ⟨readOn, between⟩ := read_readOn r context
      have nothing : Spread r.previousHi [] r.cursor.offset := by rwa [next] at spread
      simp only [current, next] at fine
      have spread' := nothing.read readOn.offset (between fine)
      have next' : (r.read context).1.next = none := readOn.next.trans next
      have ordered : Ordered { (r.read context).1 with current := (r.read context).2 } :=
        ⟨by simpa [next', readOn.previousHi] using spread', by simp [next']⟩
      rw [ahead, ← readOn.previousHi] at within
      exact ⟨ordered, within.mono ordered.previousHi_le, plain⟩

theorem lookNext_carries (carries : Carries lo stack r) (known : ∀ lexeme ∈ r.current, lexeme.token.isWordOrMark = true)
    (fine : (r.lookNext context).problems = []) : Carries lo stack (r.lookNext context) := by
  obtain ⟨⟨spread, wordOrMark⟩, within, plain⟩ := carries
  unfold lookNext at fine ⊢
  cases next : r.next with
  | some lexeme => exact ⟨⟨spread, wordOrMark⟩, within, plain⟩
  | none =>
    obtain ⟨readOn, between⟩ := read_readOn r context
    rw [next, Option.toList_none, List.append_nil] at spread
    simp only [next] at fine
    have spread' := spread.read readOn.offset (between fine)
    refine ⟨⟨?_, fun _ => ?_⟩, ?_, plain⟩
    · simpa [readOn.current, readOn.previousHi] using spread'
    · simpa [readOn.current] using known
    · unfold Reader.ahead at within ⊢
      rwa [readOn.current, readOn.previousHi]

theorem advance_carries (carries : Carries lo stack r) : Carries lo stack r.advance := by
  obtain ⟨⟨spread, wordOrMark⟩, within, plain⟩ := carries
  unfold advance
  cases current : r.current with
  | none => exact ⟨⟨spread, wordOrMark⟩, within, plain⟩
  | some lexeme =>
    rw [current] at spread
    refine ⟨⟨spread.2.2, by simp⟩, ?_, plain⟩
    refine within.mono ?_
    simp only [Reader.ahead, current]
    exact spread.2.1.1

/-! ### Looking behind the current token -/

/-- What the current token is, where it is known. -/
def token? (r : Reader) : Option Token := r.current.map Lexeme.token

/-- The first token at hand. -/
def front (r : Reader) : Option Lexeme := r.current.or r.next

/-- Whether the first token is at hand and one to look ahead behind. -/
def Poised (r : Reader) : Prop := ∃ lexeme, r.front = some lexeme ∧ lexeme.token.isWordOrMark = true

theorem look_of_token {token : Token} (known : r.token? = some token) : r.look context = r := by
  obtain ⟨lexeme, current, _⟩ := Option.map_eq_some_iff.mp known
  simp [look, current]

theorem Poised.of_token {token : Token} (known : r.token? = some token) (plain : token.isWordOrMark = true) : r.Poised := by
  obtain ⟨lexeme, current, rfl⟩ := Option.map_eq_some_iff.mp known
  exact ⟨lexeme, by simp [front, current], plain⟩

theorem Poised.look (poised : r.Poised) : ∃ token, (r.look context).token? = some token ∧ token.isWordOrMark = true := by
  obtain ⟨lexeme, first, plain⟩ := poised
  refine ⟨lexeme.token, ?_, plain⟩
  unfold Reader.look
  cases current : r.current with
  | some other =>
    obtain rfl : other = lexeme := by simpa [front, current] using first
    simp [token?, current]
  | none =>
    have next : r.next = some lexeme := by simpa [front, current] using first
    simp [token?, next]

@[simp] theorem lookNext_current : (r.lookNext context).current = r.current := by
  unfold lookNext
  cases r.next with
  | some lexeme => rfl
  | none => exact (read_readOn r context).1.current

theorem Poised.advance {lexeme : Lexeme} (poised : r.Poised) (next : r.next = some lexeme)
    (plain : lexeme.token.isWordOrMark = true) : r.advance.Poised := by
  unfold Reader.advance
  cases r.current with
  | some _ => exact ⟨lexeme, by simp [front, next], plain⟩
  | none => exact poised

end Reader

end Bundler.Script
