import Bundler.Proofs.Script.Require
import Mathlib.Data.List.Basic

/-!
The scopes of a script: which names each node binds around which of its children. A place in a tree is told by the
children that lead to it, and a name at a place is looked for in the scopes of the nodes above, from the inside out.
Replacing the calls of `require` changes no scope. Objects under `with` and code that is made at run time are not looked
at.
-/

namespace Bundler

namespace Script

/-- The names that a scope binds. -/
abbrev Scope := List String

namespace Node

/-! ### Names -/

/-- The names that a pattern or a declaration of variables binds. -/
def bound (n : Node) : Scope := n.fold fun n below =>
  match n.kind, below.map (·.2) with
  | .name text, _ => [text]
  | .arrayPattern, names | .objectPattern, names | .rest, names | .variableDeclaration _, names => names.flatten
  | .property, [_, names] => names
  | .shorthand, names :: _ | .defaulted, names :: _ | .declarator, names :: _ => names
  | _, _ => []

/-- The names that a statement binds in the block around it. Functions that are neither asynchronous nor generators count
where `plain` is true. -/
def declared (plain : Bool) (n : Node) : Scope := n.fold fun n below =>
  match n.kind, n.children.map bound with
  | .variableDeclaration .let, names | .variableDeclaration .const, names => names.flatten
  | .functionDeclaration false false, name :: _ => if plain then name else []
  | .functionDeclaration .., name :: _ | .classDeclaration, name :: _ => name
  | .labelled, _ | .case, _ => (below.map (·.2)).flatten
  | _, _ => []

/-- The names that a statement binds in the function around it. -/
def hoisted (n : Node) : Scope := n.fold fun n below =>
  match n.kind with
  | .variableDeclaration .var => (n.children.map bound).flatten
  | .block | .with | .labelled | .if | .switch | .case | .try | .catch | .while | .doWhile | .for | .forIn | .forOf _ =>
    (below.map (·.2)).flatten
  | _ => []

/-- What the statements of a block or a `switch`, or the head of a loop, bind in all of it. -/
def inner (plain : Bool) (n : Node) : Scope :=
  match n.kind, n.children.map (declared plain) with
  | .block, names | .switch, _ :: names => names.flatten
  | .for, start :: _ | .forIn, start :: _ | .forOf _, start :: _ => start
  | _, _ => []

/-- The names that no `var` below a node may have, since the node binds them itself. A name that stands alone behind
`catch` is no hindrance. -/
def barred (n : Node) : Scope :=
  let parts (target : Node) : Scope := match target.kind with
    | .name _ => []
    | _ => target.bound
  match n.kind, n.children.map parts with
  | .catch, names :: _ => names
  | _, _ => n.inner false

/-- The names of functions in blocks that a statement binds in the function around it as well, where the code is not
strict: those that a `var` in their place could have. -/
def hoistedFunctions (n : Node) : Scope := n.fold fun n below =>
  match n.kind, n.children.map bound with
  | .functionDeclaration false false, name :: _ => name
  | .block, _ | .with, _ | .labelled, _ | .if, _ | .switch, _ | .case, _ | .try, _ | .catch, _ | .while, _ | .doWhile, _
  | .for, _ | .forIn, _ | .forOf _, _ => (below.map (·.2)).flatten.filter fun name => !n.barred.contains name
  | _, _ => []

/-- The names that a statement, or the body of a function, binds in the function. -/
def vars (strict : Bool) (n : Node) : Scope := n.hoisted ++ if strict then [] else n.hoistedFunctions

/-! ### Scopes -/

/-- Whether the first of some statements ask for strict code. -/
def directs (statements : List Node) : Bool := (statements.takeWhile Parse.isDirective).any Parse.isUseStrict

/-- Whether a node makes the code in its child at `i` strict, whatever is around it. The key of a method is not in it. -/
def isStrict (n : Node) (i : Nat) : Bool :=
  let body := n.children.getLast?.any fun body => body.kind = .block && directs body.children
  match n.kind with
  | .classExpression | .classDeclaration => true
  | .script => directs n.children
  | .arrow _ | .function .. | .functionDeclaration .. => body
  | .method .. | .constructor | .classMethod .. => i ≠ 0 && body
  | _ => false

/-- The scopes that a function with so many children in front of its parameters opens around its child at `i`: the
parameters are seen by all of them and by the body, what the body hoists by the body alone. -/
def called (strict : Bool) (children : List Node) (front i : Nat) : List Scope :=
  let inside := children.drop front
  if i < front then []
  else (if i + 1 = front + inside.length then [(inside.map (vars strict)).getLastD []] else []) ++
    [(inside.map bound).dropLast.flatten]

/-- The scopes that a node opens around its child at `i`, from the inside out. -/
def opened (strict : Bool) (n : Node) (i : Nat) : List Scope :=
  let names := n.children.map bound
  let hoists := n.children.map (vars strict)
  match n.kind with
  | .script => [(n.children.map (declared true)).flatten ++ hoists.flatten]
  | .arrow _ => called strict n.children 0 i
  | .function .. => called strict n.children 1 i ++ if i = 0 then [] else [names.headD []]
  | .functionDeclaration .. | .method .. | .constructor | .classMethod .. => called strict n.children 1 i
  | .classExpression | .classDeclaration => if i = 0 then [] else [names.headD []]
  | .staticBlock => [hoists.flatten]
  | .switch => if i = 0 then [] else [n.inner true]
  | .block | .for | .forIn | .forOf _ => [n.inner true]
  | .catch => [names.headD []]
  | _ => []

/-! ### Places -/

/-- The node at a place. -/
def at? : Node → List Nat → Option Node
  | n, [] => some n
  | n, i :: path => n.children[i]?.bind fun child => child.at? path

/-- The place of the innermost node above a place that binds a name around it. -/
def binder? : Bool → Node → List Nat → String → Option (List Nat)
  | _, _, [], _ => Option.none
  | strict, n, i :: path, name =>
    let strict := strict || n.isStrict i
    match n.children[i]?.bind fun child => child.binder? strict path name with
    | some above => some (i :: above)
    | Option.none => if (n.opened strict i).any (·.contains name) then some [] else Option.none

/-! ### What a change at the calls keeps -/

variable {kind : Kind} {lo hi : Nat} {children : List Node} {resolve : String → ModuleId} {n site : Node}
  {plain strict : Bool}

theorem isStrict_of_call (call : n.kind = .call) (i : Nat) : n.isStrict i = false := by
  simp only [isStrict, call]

theorem opened_of_call (call : n.kind = .call) (i : Nat) : n.opened strict i = [] := by
  rw [opened, call]

theorem linked_of_ne_call (other : n.kind ≠ .call) : linked resolve n = n := by
  unfold linked
  split
  · exact absurd rfl other
  · rfl

theorem map_linked_of_ne_call (other : kind ≠ .call) : (mk kind lo hi children).map (linked resolve) =
    mk kind lo hi (children.map (map (linked resolve))) := by
  rw [map_mk]
  exact linked_of_ne_call other

/-- What says nothing of calls, and of other nodes only what it says of those below them, says the same when the calls are
replaced. -/
theorem induction_linked {α : Type} {f : Node → α} (none : α) (calls : ∀ n : Node, n.kind = .call → f n = none)
    (others : ∀ kind lo hi children, kind ≠ .call → (children.map (map (linked resolve))).map f = children.map f →
      f (mk kind lo hi (children.map (map (linked resolve)))) = f (mk kind lo hi children)) (n : Node) :
    f (n.map (linked resolve)) = f n := by
  induction n using induction with
  | mk kind lo hi children ih =>
    by_cases call : kind = .call
    · rw [calls (mk kind lo hi children) call, calls _ ((kind_map_linked (mk kind lo hi children)).trans call)]
    · rw [map_linked_of_ne_call call]
      refine others kind lo hi children call ?_
      rw [List.map_map]
      exact List.map_congr_left ih

theorem map_map_linked {α : Type} {f : Node → α} (same : ∀ n, f (n.map (linked resolve)) = f n) (ns : List Node) :
    (ns.map (map (linked resolve))).map f = ns.map f := by
  rw [List.map_map]
  exact List.map_congr_left fun n _ => same n

theorem bound_mk : (mk kind lo hi children).bound =
    match kind, children.map bound with
    | .name text, _ => [text]
    | .arrayPattern, names | .objectPattern, names | .rest, names | .variableDeclaration _, names => names.flatten
    | .property, [_, names] => names
    | .shorthand, names :: _ | .defaulted, names :: _ | .declarator, names :: _ => names
    | _, _ => [] := by
  rw [bound, fold_mk, List.map_map]
  rfl

theorem bound_map_linked : ∀ n : Node, (n.map (linked resolve)).bound = n.bound := by
  refine induction_linked [] ?_ ?_
  · rintro ⟨kind, lo, hi, children⟩ call
    cases call
    rw [bound_mk]
  · intro kind lo hi children _ same
    rw [bound_mk, bound_mk, same]

theorem declared_mk : (mk kind lo hi children).declared plain =
    match kind, children.map bound with
    | .variableDeclaration .let, names | .variableDeclaration .const, names => names.flatten
    | .functionDeclaration false false, name :: _ => if plain then name else []
    | .functionDeclaration .., name :: _ | .classDeclaration, name :: _ => name
    | .labelled, _ | .case, _ => (children.map (declared plain)).flatten
    | _, _ => [] := by
  rw [declared, fold_mk, List.map_map]
  rfl

theorem declared_map_linked : ∀ n : Node, (n.map (linked resolve)).declared plain = n.declared plain := by
  refine induction_linked [] ?_ ?_
  · rintro ⟨kind, lo, hi, children⟩ call
    cases call
    rw [declared_mk]
  · intro kind lo hi children _ same
    rw [declared_mk, declared_mk, same, map_map_linked bound_map_linked]

theorem hoisted_mk : (mk kind lo hi children).hoisted =
    match kind with
    | .variableDeclaration .var => (children.map bound).flatten
    | .block | .with | .labelled | .if | .switch | .case | .try | .catch | .while | .doWhile | .for | .forIn | .forOf _ =>
      (children.map hoisted).flatten
    | _ => [] := by
  rw [hoisted, fold_mk, List.map_map]
  rfl

theorem hoisted_map_linked : ∀ n : Node, (n.map (linked resolve)).hoisted = n.hoisted := by
  refine induction_linked [] ?_ ?_
  · rintro ⟨kind, lo, hi, children⟩ call
    cases call
    rw [hoisted_mk]
  · intro kind lo hi children _ same
    rw [hoisted_mk, hoisted_mk, same, map_map_linked bound_map_linked]

theorem inner_map_linked : (mk kind lo hi (children.map (map (linked resolve)))).inner plain =
    (mk kind lo hi children).inner plain := by
  unfold inner
  simp only [kind_mk, children_mk, map_map_linked declared_map_linked]

theorem barred_map_linked : (mk kind lo hi (children.map (map (linked resolve)))).barred =
    (mk kind lo hi children).barred := by
  unfold barred
  rw [inner_map_linked]
  simp only [kind_mk, children_mk, List.map_map, Function.comp_def, kind_map_linked, bound_map_linked]

theorem hoistedFunctions_mk : (mk kind lo hi children).hoistedFunctions =
    match kind, children.map bound with
    | .functionDeclaration false false, name :: _ => name
    | .block, _ | .with, _ | .labelled, _ | .if, _ | .switch, _ | .case, _ | .try, _ | .catch, _ | .while, _ | .doWhile, _
    | .for, _ | .forIn, _ | .forOf _, _ => (children.map hoistedFunctions).flatten.filter fun name =>
      !(mk kind lo hi children).barred.contains name
    | _, _ => [] := by
  rw [hoistedFunctions, fold_mk, List.map_map]
  rfl

theorem hoistedFunctions_map_linked : ∀ n : Node, (n.map (linked resolve)).hoistedFunctions = n.hoistedFunctions := by
  refine induction_linked [] ?_ ?_
  · rintro ⟨kind, lo, hi, children⟩ call
    cases call
    rw [hoistedFunctions_mk]
  · intro kind lo hi children _ same
    rw [hoistedFunctions_mk, hoistedFunctions_mk, same, map_map_linked bound_map_linked, barred_map_linked]

theorem vars_map_linked (n : Node) : (n.map (linked resolve)).vars strict = n.vars strict := by
  rw [vars, vars, hoisted_map_linked, hoistedFunctions_map_linked]

/-- What is asked of statements, and answered by the kind of a lone expression, has the same answer when the calls are
replaced. -/
theorem directive_map_linked {f : Node → Bool}
    (asks : ∀ n, f n = match n.kind, n.children with
      | .expression, [inner] => f (mk .expression 0 0 [mk inner.kind 0 0 []])
      | _, _ => false) : ∀ n, f (n.map (linked resolve)) = f n := by
  refine induction_linked false (fun n call => ?_) fun kind lo hi children _ _ => ?_
  · rw [asks, call]
  · rw [asks, asks (mk kind lo hi children)]
    match children with
    | [] => rfl
    | [inner] => cases kind <;> simp [kind_map_linked]
    | _ :: _ :: _ => cases kind <;> simp

theorem directs_map_linked (statements : List Node) :
    directs (statements.map (map (linked resolve))) = directs statements := by
  have directive : ∀ n, Parse.isDirective (n.map (linked resolve)) = Parse.isDirective n :=
    directive_map_linked fun _ => rfl
  have strict : ∀ n, Parse.isUseStrict (n.map (linked resolve)) = Parse.isUseStrict n :=
    directive_map_linked fun _ => rfl
  unfold directs
  rw [List.takeWhile_map, List.any_map]
  simp only [Function.comp_def, directive, strict]

theorem isStrict_map_linked (i : Nat) : ∀ n : Node, (n.map (linked resolve)).isStrict i = n.isStrict i := by
  refine induction_linked false (fun n call => isStrict_of_call call i) ?_
  intro kind lo hi children _ _
  have body (n : Node) : (decide ((n.map (linked resolve)).kind = .block) && directs (n.map (linked resolve)).children) =
      (decide (n.kind = .block) && directs n.children) := by
    obtain ⟨kind, lo, hi, children⟩ := n
    by_cases block : kind = .block
    · rw [map_linked_of_ne_call (by rw [block]; decide), kind_mk, children_mk, directs_map_linked]
      rfl
    · simp [kind_map_linked, block]
  unfold isStrict
  simp only [kind_mk, children_mk, directs_map_linked, List.getLast?_map, Option.any_map, body]

theorem called_map_linked (children : List Node) (front i : Nat) :
    called strict (children.map (map (linked resolve))) front i = called strict children front i := by
  unfold called
  simp only [← List.map_drop, map_map_linked bound_map_linked, map_map_linked vars_map_linked, List.length_map]

theorem opened_map_linked (n : Node) (i : Nat) : (n.map (linked resolve)).opened strict i = n.opened strict i := by
  obtain ⟨kind, lo, hi, children⟩ := n
  by_cases call : kind = .call
  · have call' : ((mk kind lo hi children).map (linked resolve)).kind = .call := (kind_map_linked _).trans call
    rw [opened_of_call call', opened_of_call (n := mk kind lo hi children) call]
  · rw [map_linked_of_ne_call call]
    unfold opened
    simp only [kind_mk, children_mk, inner_map_linked, called_map_linked, map_map_linked bound_map_linked,
      map_map_linked vars_map_linked, map_map_linked declared_map_linked]

/-- A node opens the same scopes when calls below it are replaced. -/
theorem scopes_mapped (resolve : String → ModuleId) (kind : Kind) (lo hi : Nat) (children : List Node) :
    let mapped := mk kind lo hi (children.map (map (linked resolve)))
    (∀ i, mapped.isStrict i = (mk kind lo hi children).isStrict i) ∧
      ∀ strict i, mapped.opened strict i = (mk kind lo hi children).opened strict i := by
  by_cases call : kind = .call
  · subst call
    exact ⟨fun _ => rfl, fun _ _ => rfl⟩
  · rw [← map_linked_of_ne_call call]
    exact ⟨fun i => isStrict_map_linked i _, fun _ _ => opened_map_linked _ _⟩

/-- Whether a node is a call, through `?.` or not. -/
def isCall (n : Node) : Bool :=
  match n.kind with
  | .call | .chainCall _ => true
  | _ => false

/-- A replaced call has the calls below it where they were. -/
theorem at?_linked {path : List Nat} (below : path ≠ []) (calls : site.isCall = true) (found : n.at? path = some site) :
    (linked resolve n).at? path = some site := by
  unfold linked
  split
  · split
    -- Only the callee and the first argument are new, a name and a string before and after.
    · rcases path with _ | ⟨_ | _ | _, _ | _⟩
      · exact absurd rfl below
      · cases found
        cases calls
      · exact found
      · cases found
        cases calls
      · exact found
      · exact found
      · exact found
    · exact found
  · exact found

/-- Replacing the calls leaves each of them where it was. -/
theorem at?_map_linked {path : List Nat} (calls : site.isCall = true) (found : n.at? path = some site) :
    (n.map (linked resolve)).at? path = some (site.map (linked resolve)) := by
  induction path generalizing n with
  | nil =>
    cases found
    rfl
  | cons i path ih =>
    obtain ⟨kind, lo, hi, children⟩ := n
    rw [map_mk]
    refine at?_linked (by simp) (by rwa [isCall, kind_map_linked]) ?_
    obtain ⟨child, there, found⟩ := Option.bind_eq_some_iff.mp found
    rw [children_mk] at there
    rw [at?, children_mk, List.getElem?_map, there]
    exact ih found

theorem binder?_linked {path : List Nat} {name : String} :
    (linked resolve n).binder? strict path name = n.binder? strict path name := by
  unfold linked
  split
  · split
    · rcases path with _ | ⟨_ | _ | _, _ | _⟩ <;> rfl
    · rfl
  · rfl

/-- Replacing the calls changes for no name where it is bound. -/
theorem binder?_map_linked {path : List Nat} {name : String} (n : Node) :
    (n.map (linked resolve)).binder? strict path name = n.binder? strict path name := by
  induction path generalizing n strict with
  | nil => rfl
  | cons i path ih =>
    obtain ⟨kind, lo, hi, children⟩ := n
    obtain ⟨same, same'⟩ := scopes_mapped resolve kind lo hi children
    rw [map_mk, binder?_linked, binder?, binder?, same, children_mk, List.getElem?_map, Option.bind_map]
    simp only [Function.comp_def, ih, same', children_mk]

/-- The kind of what a node calls. -/
def callee? (n : Node) : Option Kind := n.children.head?.map Node.kind

theorem isSite_iff_callee? (call : n.isCall = true) : n.isSite = true ↔ n.callee? = some (.name requireName) := by
  obtain ⟨kind, lo, hi, children⟩ := n
  unfold isCall at call
  split at call
  · next plain =>
    obtain rfl : kind = .call := plain
    cases children with
    | nil => simp [isSite, callee?]
    | cons callee _ => simp [isSite, callee?, isRequireName_iff]
  · next optional chained =>
    obtain rfl : kind = .chainCall optional := chained
    cases children with
    | nil => simp [isSite, callee?]
    | cons callee _ => simp [isSite, callee?, isRequireName_iff]
  · cases call

theorem exists_specifier {specifiers : List String} (fine : n.sites.map demand = specifiers.map .ok)
    (member : site ∈ n.sites) : ∃ specifier, site.demand = .ok specifier := by
  have among := List.mem_map_of_mem (f := demand) member
  rw [fine] at among
  obtain ⟨specifier, _, same⟩ := List.mem_map.mp among
  exact ⟨specifier, same.symm⟩

/-- A call gets the name of the loader exactly if it calls `require` by its name. -/
theorem callee?_map_linked (fine : n.isSite = true → ∃ specifier, n.demand = .ok specifier) :
    (n.map (linked resolve)).callee? = if n.isSite then some (.name Bundle.loaderName) else n.callee? := by
  cases calls : n.isSite with
  | true =>
    obtain ⟨specifier, demanded⟩ := fine calls
    obtain ⟨lo, hi, calleeLo, calleeHi, below, raw, firstLo, firstHi, within, others, rfl⟩ := call_of_demand calls demanded
    simp [map_mk, linked, callee?]
  | false =>
    obtain ⟨kind, lo, hi, children⟩ := n
    rw [map_mk, linked_of_not_site (by rwa [isSite_map kind_map_linked])]
    simp only [callee?, children_mk, List.head?_map, Option.map_map, Function.comp_def, kind_map_linked, Bool.false_eq_true,
      if_false]

end Node

end Script

end Bundler
