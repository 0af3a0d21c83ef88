import Bundler.Proofs.Script.Reading.Name

/-!
Patterns go forth, and an expression that turns out to be a pattern takes up no more than before.
-/

namespace Bundler.Script.Parse

open Reader
open Node (Beneath)

variable {g : Grammar} {lo : Nat} {stack : List Node} {role : PatternRole} {comma : Option Nat} {isLast holes : Bool}
  {property : Parse Node}

/-! ### Patterns of declarations -/

theorem bindingElement_reads (forth : g.Forth) : Reads (bindingElement g) := fun lo stack => by
  refine position_keeps.bind fun start => forth.bindingPattern.bind fun left => eat_keeps.bind fun _ => ?_
  refine .ite (fun _ => ?_) fun _ => .pure fun _ => id
  exact forth.assignment.within.bind fun right => node_onward rfl

/-- Behind a member of a list comes its end, or a comma, of which one behind a rest may be complained about. -/
theorem listed_onward {found : List Node} {close : Mark} {rest : Bool} {restAt : Option Nat} (one : Node) :
    Onward (Carries lo (one :: found ++ stack)) (do
      if !(← isAtMark close) then
        expect .comma
        if rest && (← isAtMark close) then noteAt (← lastStart) .commaAfterRest
      return .inl (one :: found, restAt)) fun (result : (List Node × Option Nat) ⊕ List Node) r =>
        result.elim (fun state => Carries lo (state.1 ++ stack) r) fun found => Carries lo (found.reverse ++ stack) r := by
  refine isAtMark_keeps.bind fun _ => .ite (fun _ => expect_keeps.bind fun _ => ?_) fun _ => .pure fun _ => id
  exact isAtMark_keeps.bind fun _ => noteLastIf_onward (.pure fun _ => id)

theorem bindingElements_reads (forth : g.Forth) : ReadsAll (bindingElements g) := fun lo stack => by
  refine .loop (I := fun (state : List Node × Option Nat) => Carries lo (state.1 ++ stack)) fun (found, restAt) => ?_
  refine isAtEnd_keeps.bind fun _ => isAtMark_keeps.bind fun _ => .ite (fun _ => .pure fun _ => Carries.reversed) fun _ => ?_
  refine eatMark_keeps.bind fun _ => .ite (fun _ => .pure fun _ => Carries.absent) fun _ => ?_
  extract_lets element
  have goes (u : Unit) : Onward (Carries lo (found ++ stack)) (element u) fun result r =>
      result.elim (fun state => Carries lo (state.1 ++ stack) r) fun found => Carries lo (found.reverse ++ stack) r := by
    refine position_keeps.bind fun start => eatMark_keeps.bind fun rest => ?_
    refine .ite (fun _ => forth.bindingPattern.bind fun _ => ?_) fun _ => (bindingElement_reads forth).bind listed_onward
    exact (node_onward rfl).bind listed_onward
  cases restAt with
  | none => exact goes ()
  | some offset => exact noteAt_rests.bind goes

theorem arrayBinding_reads (forth : g.Forth) : Reads (arrayBinding g) := fun lo stack => by
  refine position_keeps.bind fun start => advance_keeps.bind fun _ => (bindingElements_reads forth).bind fun elements => ?_
  exact expect_keeps.bind fun _ => node_onward rfl

theorem bindingProperty_reads (forth : g.Forth) : Reads (bindingProperty g) := fun lo stack => by
  refine position_keeps.bind fun start => eatMark_keeps.bind fun _ => .ite (fun _ => ?_) fun _ => ?_
  · exact forth.bindingPattern.bind fun inner => node_onward rfl
  refine (propertyKey_reads forth).bind fun key => eatMark_keeps.bind fun _ => .ite (fun _ => ?_) fun _ => ?_
  · exact (bindingElement_reads forth).bind fun value => mk_onward rfl
  split
  · refine eat_keeps.bind fun _ => .ite (fun _ => ?_) fun _ => .surroundings fun context => ?_
    · exact forth.assignment.within.bind fun value => node_onward rfl
    · exact noteAt_rests.when ((node_onward rfl).given (fun _ => Carries.absent))
  · exact unexpected_onward

theorem checkRest_rests (comma : Option Nat) (found : List Node) : Rests (checkRest comma found) := by
  induction found with
  | nil => exact .pure _
  | cons first others ih =>
    cases others with
    | nil =>
      unfold checkRest
      split
      · split
        · cases comma
          · exact .pure _
          · exact noteAt_rests
        · exact failAt_rests
      · exact .pure _
    | cons second others =>
      unfold checkRest
      exact fun P => noteAt_rests.when (ih P)

/-- Properties are left behind whatever they are, and the place of a comma with them. -/
theorem properties_onward (reads : Reads property) : Onward (Carries lo stack) (properties property) fun found =>
    Carries lo (found.1.reverse ++ stack) := by
  refine advance_keeps.bind fun _ => ?_
  refine .loop (I := fun (state : List Node × Option Nat) => Carries lo (state.1 ++ stack)) fun (found, comma) => ?_
  refine eatMark_keeps.bind fun _ => .ite (fun _ => .pure fun _ => Carries.reversed) fun _ => reads.bind fun one => ?_
  refine isAtMark_keeps.bind fun _ => .ite (fun _ => expect_keeps.bind fun _ => ?_) fun _ => .pure fun _ => id
  exact isAtMark_keeps.bind fun _ => .ite (fun _ => lastStart_rests.bind fun _ => .pure fun _ => id) fun _ => .pure fun _ => id

theorem objectBinding_reads (forth : g.Forth) : Reads (objectBinding g) := fun lo stack => by
  refine position_keeps.bind fun start => (properties_onward (bindingProperty_reads forth)).bind fun (found, comma) => ?_
  exact (node_onward rfl).bind fun pattern => (checkRest_rests comma found).bind fun _ => .pure fun _ => id

theorem bindingPattern_reads (forth : g.Forth) : Reads (bindingPattern g) := fun lo stack => by
  refine require_keeps.bind fun token => ?_
  split
  · exact bindingName_reads lo stack
  · exact bindingName_reads lo stack
  · exact arrayBinding_reads forth lo stack
  · exact objectBinding_reads forth lo stack
  · exact unexpected_onward

/-! ### Expressions that are patterns -/

theorem notPattern_rereads (n : Node) : Rereads n (notPattern n) := fun _ =>
  noteAt_rests.bind fun _ => .pure fun _ given => ⟨given, .node rfl (.of_sublist (List.nil_sublist _))⟩

theorem propertyPattern_rereads (forth : g.Forth) (n : Node) : Rereads n (propertyPattern g role comma isLast n) := fun P => by
  unfold propertyPattern
  split
  · exact Rereads.same n P
  · next key value property parts =>
    refine (forth.pattern role.part value).bind fun value' => .pure fun _ ⟨given, beneath⟩ => ⟨given, .node rfl ?_⟩
    rw [property, parts]
    exact .cons (.refl _) beneath
  · next inner spread parts =>
    have rest (n' : Node) (beneath : Beneath [n'] [inner]) : Beneath [.mk .rest n.lo n.hi [n']] [n] := by
      refine .node rfl ?_
      rw [spread, parts]
      exact beneath
    extract_lets initializer pattern
    have ends (n' : Node) : Onward (fun r => P r ∧ Beneath [n'] [inner]) (initializer n') fun whole r =>
        P r ∧ Beneath [whole] [n] :=
      noteAt_rests.when (.pure fun _ ⟨given, beneath⟩ => ⟨given, rest n' beneath⟩)
    have goes (u : Unit) : Onward P (pattern u) fun whole r => P r ∧ Beneath [whole] [n] := by
      unfold pattern
      split
      · exact (Rereads.same inner).bind ends
      · refine noteAt_rests.bind fun _ => Onward.bind (.pure fun r given => ⟨given, ?_⟩) ends
        exact .node rfl (.of_sublist (List.nil_sublist _))
      · exact (forth.pattern _ inner).bind ends
    split
    · exact noteAt_rests.bind goes
    · exact noteAt_rests.bind goes
    · exact goes ()
  · exact failAt_onward

theorem propertyPatterns_rereads (forth : g.Forth) (ns : List Node) : RereadsAll ns (propertyPatterns g role comma ns) := by
  induction ns with
  | nil => exact fun P => .pure fun _ given => ⟨given, .refl _⟩
  | cons n rest ih =>
    refine fun P => (propertyPattern_rereads forth n).bind fun first => (ih _).bind fun others => ?_
    exact .pure fun _ ⟨⟨given, one⟩, all⟩ => ⟨given, one.cons all⟩

theorem elementPatterns_rereads (forth : g.Forth) (ns : List Node) :
    RereadsAll ns (elementPatterns g role comma holes ns) := by
  induction ns with
  | nil => exact fun P => .pure fun _ given => ⟨given, .refl _⟩
  | cons n rest ih =>
    have kept (first : Parse Node) (rereads : Rereads n first) :
        RereadsAll (n :: rest) (do return (← first) :: (← elementPatterns g role comma holes rest)) := fun P =>
      rereads.bind fun n' => (ih _).bind fun others => .pure fun _ ⟨⟨given, one⟩, all⟩ => ⟨given, one.cons all⟩
    intro P
    unfold elementPatterns
    extract_lets isLast
    split
    · next inner spread parts =>
      refine .ite (fun last => ?_) fun _ => ?_
      · extract_lets pattern comma'
        have goes (u : Unit) : Onward P (pattern u) fun ns' r => P r ∧ Beneath ns' (n :: rest) := by
          refine (forth.pattern role.part inner).bind fun n' => .pure fun _ ⟨given, beneath⟩ => ⟨given, ?_⟩
          refine .trans (.node rfl ?_) (.of_sublist (List.singleton_sublist.mpr List.mem_cons_self))
          rw [spread, parts]
          exact beneath
        refine noteAt_rests.when ?_
        unfold comma'
        split
        · exact noteAt_rests.bind goes
        · exact goes ()
      · refine noteAt_rests.bind fun _ => (ih P).gives fun others _ ⟨given, all⟩ => ⟨given, all.trans ?_⟩
        exact .of_sublist (List.sublist_cons_self _ _)
    · exact kept _ (.same n) P
    · exact kept _ (forth.pattern role.part n) P

theorem checkReference_rests (n : Node) : Rests (checkReference n) := .surroundings fun _ => noteAt_rests.last

theorem structuredPattern_rereads (forth : g.Forth) (n : Node) : Rereads n (structuredPattern g role n) := fun P => by
  refine .state fun r => Onward.forget ?_
  extract_lets comma
  split
  · next left right assign parts =>
    have defaulted (n' : Node) (beneath : Beneath [n'] [left]) : Beneath [.mk .defaulted n.lo n.hi [n', right]] [n] := by
      refine .node rfl ?_
      rw [assign, parts]
      exact beneath.cons (.refl _)
    extract_lets pattern
    have goes (n' : Node) : Onward (fun r => P r ∧ Beneath [n'] [left]) (pattern n') fun whole r => P r ∧ Beneath [whole] [n] :=
      .pure fun _ ⟨given, beneath⟩ => ⟨given, defaulted n' beneath⟩
    split
    · exact (Rereads.same left).bind goes
    · exact (Rereads.same left).bind goes
    · exact (forth.pattern role left).bind goes
  · next object =>
    refine (propertyPatterns_rereads forth n.children).bind fun ns' => .pure fun _ ⟨given, beneath⟩ => ⟨given, .node rfl ?_⟩
    rw [object]
    exact beneath
  · exact Rereads.same n P
  · next array =>
    have kept : ((n.children.reverse.dropWhile Node.isAbsent).reverse).Sublist n.children := by
      have sub := (List.dropWhile_sublist (l := n.children.reverse) Node.isAbsent).reverse
      rwa [List.reverse_reverse] at sub
    refine (elementPatterns_rereads forth _).bind fun ns' => .pure fun _ ⟨given, beneath⟩ => ⟨given, .node rfl ?_⟩
    rw [array]
    exact beneath.trans (.of_sublist kept)
  · exact notPattern_rereads n P

theorem patternOf_rereads (forth : g.Forth) (role : PatternRole) (n : Node) : Rereads n (patternOf g role n) := fun P => by
  unfold patternOf
  refine .ite (fun _ => Rereads.same n P) fun _ => ?_
  extract_lets isLiteral
  split
  · refine .ite (fun _ => structuredPattern_rereads forth n P) fun _ => ?_
    exact (checkReference_rests n).bind fun _ => Rereads.same n P
  · refine .ite (fun _ => structuredPattern_rereads forth n P) fun _ => .ite (fun _ => .surroundings fun _ => ?_) fun _ => ?_
    · exact noteAt_rests.when (Rereads.same n P)
    · exact noteAt_rests.bind fun _ => notPattern_rereads n P
  · exact structuredPattern_rereads forth n P

end Bundler.Script.Parse
