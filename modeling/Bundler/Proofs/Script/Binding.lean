import Bundler.Proofs.Script.Scope

/-!
The bindings of a script: a rule for each form in which a node binds a name around one of its children, and the places
that are in the scope of a binding. A name that is looked for along the scopes of a place is found exactly if the place
is in the scope of a binding of it.
-/

namespace Bundler.Script

/-- Whether a statement holds statements of the same function. -/
def Kind.encloses : Kind → Bool
  | .block | .with | .labelled | .if | .switch | .case | .try | .catch | .while | .doWhile | .for | .forIn | .forOf _ => true
  | _ => false

/-- How many children of a function stand in front of its parameters. -/
def Kind.leading? : Kind → Option Nat
  | .arrow _ => some 0
  | .function .. | .functionDeclaration .. | .method .. | .constructor | .classMethod .. => some 1
  | _ => none

namespace Node

variable {kind : Kind} {lo hi i : Nat} {children : List Node} {n : Node} {plain strict : Bool} {text : String}

/-- A pattern or a declaration of variables binds a name. -/
inductive Names : Node → String → Prop
  | name {lo hi : Nat} {children : List Node} {text : String} : Names (.mk (.name text) lo hi children) text
  | part {kind : Kind} {lo hi : Nat} {children : List Node} {child : Node} {text : String}
      (parts : kind = .arrayPattern ∨ kind = .objectPattern ∨ kind = .rest ∨ ∃ how, kind = .variableDeclaration how)
      (member : child ∈ children) (names : Names child text) : Names (.mk kind lo hi children) text
  | property {lo hi : Nat} {key value : Node} {text : String} (names : Names value text) :
      Names (.mk .property lo hi [key, value]) text
  | target {kind : Kind} {lo hi : Nat} {target : Node} {others : List Node} {text : String}
      (led : kind = .shorthand ∨ kind = .defaulted ∨ kind = .declarator) (names : Names target text) :
      Names (.mk kind lo hi (target :: others)) text

/-- A statement binds a name in the block around it: with `let` or `const`, or as the name of a class or a function.
Functions that are neither asynchronous nor generators count where `plain` is true. -/
inductive Declares (plain : Bool) : Node → String → Prop
  | lexical {how : VariableKind} {lo hi : Nat} {declarators : List Node} {declarator : Node} {text : String}
      (how_eq : how = .let ∨ how = .const) (member : declarator ∈ declarators) (names : Names declarator text) :
      Declares plain (.mk (.variableDeclaration how) lo hi declarators) text
  | function {async generator : Bool} {lo hi : Nat} {name : Node} {others : List Node} {text : String}
      (counts : async = true ∨ generator = true ∨ plain = true) (names : Names name text) :
      Declares plain (.mk (.functionDeclaration async generator) lo hi (name :: others)) text
  | className {lo hi : Nat} {name : Node} {others : List Node} {text : String} (names : Names name text) :
      Declares plain (.mk .classDeclaration lo hi (name :: others)) text
  | inside {kind : Kind} {lo hi : Nat} {children : List Node} {child : Node} {text : String}
      (holds : kind = .labelled ∨ kind = .case) (member : child ∈ children) (declares : Declares plain child text) :
      Declares plain (.mk kind lo hi children) text

/-- A statement has a `var` in it that binds a name in the function around it. -/
inductive Hoists : Node → String → Prop
  | var {lo hi : Nat} {declarators : List Node} {declarator : Node} {text : String} (member : declarator ∈ declarators)
      (names : Names declarator text) : Hoists (.mk (.variableDeclaration .var) lo hi declarators) text
  | inside {kind : Kind} {lo hi : Nat} {children : List Node} {child : Node} {text : String} (holds : kind.encloses = true)
      (member : child ∈ children) (hoists : Hoists child text) : Hoists (.mk kind lo hi children) text

/-- A block, a `switch` or a loop binds a name in what it encloses. -/
inductive Encloses (plain : Bool) : Node → String → Prop
  | block {lo hi : Nat} {statements : List Node} {statement : Node} {text : String} (member : statement ∈ statements)
      (declares : Declares plain statement text) : Encloses plain (.mk .block lo hi statements) text
  | switch {lo hi : Nat} {value : Node} {cases : List Node} {case : Node} {text : String} (member : case ∈ cases)
      (declares : Declares plain case text) : Encloses plain (.mk .switch lo hi (value :: cases)) text
  | loop {kind : Kind} {lo hi : Nat} {start : Node} {others : List Node} {text : String}
      (loops : kind = .for ∨ kind = .forIn ∨ ∃ await, kind = .forOf await) (declares : Declares plain start text) :
      Encloses plain (.mk kind lo hi (start :: others)) text

/-- No `var` below a node may have the name: the node encloses it, or it is in a pattern behind `catch`. -/
inductive Bars : Node → String → Prop
  | encloses {n : Node} {text : String} (encloses : Encloses false n text) : Bars n text
  | caught {lo hi : Nat} {target : Node} {others : List Node} {text : String} (names : Names target text)
      (pattern : ∀ name, target.kind ≠ .name name) : Bars (.mk .catch lo hi (target :: others)) text

/-- A statement has a function in it whose name is bound in the function around it as well, where the code is not
strict, since a `var` could have it there. -/
inductive HoistsFunction : Node → String → Prop
  | function {lo hi : Nat} {name : Node} {others : List Node} {text : String} (names : Names name text) :
      HoistsFunction (.mk (.functionDeclaration false false) lo hi (name :: others)) text
  | inside {kind : Kind} {lo hi : Nat} {children : List Node} {child : Node} {text : String} (holds : kind.encloses = true)
      (member : child ∈ children) (hoists : HoistsFunction child text) (free : ¬ Bars (.mk kind lo hi children) text) :
      HoistsFunction (.mk kind lo hi children) text

/-- What is bound in a function by a statement in it. -/
def Varies (strict : Bool) (n : Node) (text : String) : Prop := Hoists n text ∨ strict = false ∧ HoistsFunction n text

/-- A node binds a name around its child at an index. -/
inductive Binds (strict : Bool) : Node → Nat → String → Prop
  /-- A parameter, in all parameters and the body of its function. -/
  | parameter {kind : Kind} {lo hi i : Nat} {front parameters : List Node} {parameter body : Node} {text : String}
      (calls : kind.leading? = some front.length) (member : parameter ∈ parameters) (names : Names parameter text)
      (inside : front.length ≤ i) : Binds strict (.mk kind lo hi (front ++ (parameters ++ [body]))) i text
  /-- A variable, in the body of its function. -/
  | varied {kind : Kind} {lo hi : Nat} {front parameters : List Node} {body : Node} {text : String}
      (calls : kind.leading? = some front.length) (varies : Varies strict body text) :
      Binds strict (.mk kind lo hi (front ++ (parameters ++ [body]))) (front.length + parameters.length) text
  /-- The name of a function in an expression, in that function. -/
  | ownName {async generator : Bool} {lo hi i : Nat} {name : Node} {others : List Node} {text : String}
      (names : Names name text) (inside : i ≠ 0) :
      Binds strict (.mk (.function async generator) lo hi (name :: others)) i text
  /-- The name of a class, in that class. -/
  | className {kind : Kind} {lo hi i : Nat} {name : Node} {others : List Node} {text : String}
      (isClass : kind = .classExpression ∨ kind = .classDeclaration) (names : Names name text) (inside : i ≠ 0) :
      Binds strict (.mk kind lo hi (name :: others)) i text
  /-- What a statement of the script declares or hoists, in all of the script. -/
  | script {lo hi i : Nat} {statements : List Node} {statement : Node} {text : String} (member : statement ∈ statements)
      (binds : Declares true statement text ∨ Varies strict statement text) :
      Binds strict (.mk .script lo hi statements) i text
  | staticBlock {lo hi i : Nat} {statements : List Node} {statement : Node} {text : String}
      (member : statement ∈ statements) (varies : Varies strict statement text) :
      Binds strict (.mk .staticBlock lo hi statements) i text
  /-- What a statement of a block or a `switch`, or the head of a loop declares. The value of a `switch` is outside. -/
  | statement {n : Node} {i : Nat} {text : String} (encloses : Encloses true n text)
      (inside : n.kind = .switch → i ≠ 0) : Binds strict n i text
  /-- What is behind `catch`. -/
  | caught {lo hi i : Nat} {target : Node} {others : List Node} {text : String} (names : Names target text) :
      Binds strict (.mk .catch lo hi (target :: others)) i text

/-- A place is in the scope of a binding of a name: a node above it binds the name around the child that leads to it. -/
inductive InScope : Bool → Node → List Nat → String → Prop
  | here {strict : Bool} {n : Node} {i : Nat} {path : List Nat} {text : String}
      (binds : Binds (strict || n.isStrict i) n i text) : InScope strict n (i :: path) text
  | deeper {strict : Bool} {n child : Node} {i : Nat} {path : List Nat} {text : String}
      (there : n.children[i]? = some child) (within : InScope (strict || n.isStrict i) child path text) :
      InScope strict n (i :: path) text

/-! ### What the scopes hold -/

theorem mem_flatten_map_iff {f : Node → Scope} {ns : List Node} :
    text ∈ (ns.map f).flatten ↔ ∃ n ∈ ns, text ∈ f n := by
  rw [← List.flatMap_def, List.mem_flatMap]

theorem names_iff : Names n text ↔ text ∈ n.bound := by
  constructor
  · intro names
    induction names with
    | name => simp [bound_mk]
    | part parts member _ ih =>
      rcases parts with rfl | rfl | rfl | ⟨_, rfl⟩ <;> exact bound_mk ▸ mem_flatten_map_iff.mpr ⟨_, member, ih⟩
    | property _ ih => simpa [bound_mk] using ih
    | target led _ ih => rcases led with rfl | rfl | rfl <;> simpa [bound_mk] using ih
  · induction n using induction with
    | mk kind lo hi children ih =>
      intro member
      rw [bound_mk] at member
      have part (parts : kind = .arrayPattern ∨ kind = .objectPattern ∨ kind = .rest ∨ ∃ how, kind = .variableDeclaration how)
          (member : text ∈ (children.map bound).flatten) : Names (mk kind lo hi children) text := by
        obtain ⟨child, among, member⟩ := mem_flatten_map_iff.mp member
        exact .part parts among (ih child among member)
      have target {names : Scope} {rest : List Scope} (led : kind = .shorthand ∨ kind = .defaulted ∨ kind = .declarator)
          (split : children.map bound = names :: rest) (member : text ∈ names) : Names (mk kind lo hi children) text := by
        obtain ⟨target, others, rfl, rfl, _⟩ := List.map_eq_cons_iff.mp split
        exact .target led (ih target List.mem_cons_self member)
      split at member
      · obtain rfl := List.mem_singleton.mp member
        exact .name
      · exact part (by simp) member
      · exact part (by simp) member
      · exact part (by simp) member
      · exact part (by simp) member
      · next split =>
        obtain ⟨key, others, rfl, _, behind⟩ := List.map_eq_cons_iff.mp split
        obtain ⟨value, others, rfl, rfl, last⟩ := List.map_eq_cons_iff.mp behind
        obtain rfl := List.map_eq_nil_iff.mp last
        exact .property (ih value (by simp) member)
      · next split => exact target (by simp) split member
      · next split => exact target (by simp) split member
      · next split => exact target (by simp) split member
      · cases member

theorem declares_iff : Declares plain n text ↔ text ∈ n.declared plain := by
  constructor
  · intro declares
    induction declares with
    | lexical how_eq member names =>
      rcases how_eq with rfl | rfl <;>
        exact declared_mk ▸ mem_flatten_map_iff.mpr ⟨_, member, names_iff.mp names⟩
    | @function async generator _ _ _ _ _ counts names =>
      cases async <;> cases generator <;> simp_all [declared_mk, names_iff]
    | className names => simpa [declared_mk] using names_iff.mp names
    | inside holds member _ ih =>
      rcases holds with rfl | rfl <;> exact declared_mk ▸ mem_flatten_map_iff.mpr ⟨_, member, ih⟩
  · induction n using induction with
    | mk kind lo hi children ih =>
      intro member
      rw [declared_mk] at member
      have inside (holds : kind = .labelled ∨ kind = .case) (member : text ∈ (children.map (declared plain)).flatten) :
          Declares plain (mk kind lo hi children) text := by
        obtain ⟨child, among, member⟩ := mem_flatten_map_iff.mp member
        exact .inside holds among (ih child among member)
      split at member
      · obtain ⟨declarator, among, member⟩ := mem_flatten_map_iff.mp member
        exact .lexical (.inl rfl) among (names_iff.mpr member)
      · obtain ⟨declarator, among, member⟩ := mem_flatten_map_iff.mp member
        exact .lexical (.inr rfl) among (names_iff.mpr member)
      · next split =>
        obtain ⟨name, others, rfl, rfl, _⟩ := List.map_eq_cons_iff.mp split
        split at member
        · next counts => exact .function (by simp [counts]) (names_iff.mpr member)
        · cases member
      · next special split =>
        obtain ⟨name, others, rfl, rfl, _⟩ := List.map_eq_cons_iff.mp split
        refine .function ?_ (names_iff.mpr member)
        by_contra plainly
        simp only [not_or, Bool.not_eq_true] at plainly
        exact special plainly.1 plainly.2.1
      · next split =>
        obtain ⟨name, others, rfl, rfl, _⟩ := List.map_eq_cons_iff.mp split
        exact .className (names_iff.mpr member)
      · exact inside (.inl rfl) member
      · exact inside (.inr rfl) member
      · cases member

theorem hoisted_eq (kind : Kind) (lo hi : Nat) (children : List Node) : (mk kind lo hi children).hoisted =
    if kind = .variableDeclaration .var then (children.map bound).flatten
    else if kind.encloses then (children.map hoisted).flatten else [] := by
  rw [hoisted_mk]
  cases kind with
  | variableDeclaration how => cases how <;> rfl
  | _ => rfl

theorem hoists_iff : Hoists n text ↔ text ∈ n.hoisted := by
  constructor
  · intro hoists
    induction hoists with
    | var member names => exact hoisted_mk ▸ mem_flatten_map_iff.mpr ⟨_, member, names_iff.mp names⟩
    | @inside kind _ _ _ _ _ holds member _ ih =>
      have other : kind ≠ .variableDeclaration .var := by
        rintro rfl
        cases holds
      rw [hoisted_eq, if_neg other, if_pos holds]
      exact mem_flatten_map_iff.mpr ⟨_, member, ih⟩
  · induction n using induction with
    | mk kind lo hi children ih =>
      intro member
      rw [hoisted_eq] at member
      split at member
      · next var =>
        subst var
        obtain ⟨declarator, among, member⟩ := mem_flatten_map_iff.mp member
        exact .var among (names_iff.mpr member)
      · split at member
        · next holds =>
          obtain ⟨child, among, member⟩ := mem_flatten_map_iff.mp member
          exact .inside holds among (ih child among member)
        · cases member

theorem encloses_iff : Encloses plain n text ↔ text ∈ n.inner plain := by
  constructor
  · rintro (⟨member, declares⟩ | ⟨member, declares⟩ | ⟨loops, declares⟩)
    · exact mem_flatten_map_iff.mpr ⟨_, member, declares_iff.mp declares⟩
    · exact mem_flatten_map_iff.mpr ⟨_, member, declares_iff.mp declares⟩
    · rcases loops with rfl | rfl | ⟨_, rfl⟩ <;> exact declares_iff.mp declares
  · obtain ⟨kind, lo, hi, children⟩ := n
    intro member
    unfold inner at member
    have loop {start : Scope} {rest : List Scope} (loops : kind = .for ∨ kind = .forIn ∨ ∃ await, kind = .forOf await)
        (split : children.map (declared plain) = start :: rest) (member : text ∈ start) :
        Encloses plain (mk kind lo hi children) text := by
      obtain ⟨start, others, rfl, rfl, _⟩ := List.map_eq_cons_iff.mp split
      exact .loop loops (declares_iff.mpr member)
    split at member
    · next block =>
      obtain rfl : kind = .block := block
      obtain ⟨statement, among, member⟩ := mem_flatten_map_iff.mp member
      exact .block among (declares_iff.mpr member)
    · next switch split =>
      obtain rfl : kind = .switch := switch
      obtain ⟨value, cases, rfl, _, rfl⟩ := List.map_eq_cons_iff.mp split
      obtain ⟨case, among, member⟩ := mem_flatten_map_iff.mp member
      exact .switch among (declares_iff.mpr member)
    · next loops split => exact loop (.inl loops) split member
    · next loops split => exact loop (.inr (.inl loops)) split member
    · next loops split => exact loop (.inr (.inr ⟨_, loops⟩)) split member
    · cases member

theorem bars_iff : Bars n text ↔ text ∈ n.barred := by
  obtain ⟨kind, lo, hi, children⟩ := n
  unfold barred
  extract_lets parts
  have parts_iff (target : Node) : text ∈ parts target ↔ Names target text ∧ ∀ name, target.kind ≠ .name name := by
    obtain ⟨kind, _, _, _⟩ := target
    cases kind <;> simp [parts, names_iff]
  split
  · next caught split =>
    obtain rfl : kind = .catch := caught
    obtain ⟨target, others, rfl, rfl, _⟩ := List.map_eq_cons_iff.mp split
    rw [parts_iff]
    constructor
    · rintro (⟨⟨⟩ | ⟨⟩ | ⟨loops, _⟩⟩ | ⟨names, pattern⟩)
      · rcases loops with loops | loops | ⟨_, loops⟩ <;> cases loops
      · exact ⟨names, pattern⟩
    · exact fun ⟨names, pattern⟩ => .caught names pattern
  · next other =>
    rw [← encloses_iff]
    constructor
    · rintro (encloses | ⟨names, _⟩)
      · exact encloses
      · exact absurd rfl (other _ _ rfl)
    · exact .encloses

theorem hoistedFunctions_eq (kind : Kind) (lo hi : Nat) (children : List Node) :
    (mk kind lo hi children).hoistedFunctions =
      if kind = .functionDeclaration false false then (children.map bound).headD []
      else if kind.encloses then (children.map hoistedFunctions).flatten.filter fun name =>
        !(mk kind lo hi children).barred.contains name
      else [] := by
  rw [hoistedFunctions_mk]
  cases kind with
  | functionDeclaration async generator =>
    cases async <;> cases generator <;> cases children <;> rfl
  | _ => rfl

theorem hoistsFunction_iff : HoistsFunction n text ↔ text ∈ n.hoistedFunctions := by
  constructor
  · intro hoists
    induction hoists with
    | function names => exact hoistedFunctions_mk ▸ names_iff.mp names
    | @inside kind _ _ _ _ _ holds member _ free ih =>
      have other : kind ≠ .functionDeclaration false false := by
        rintro rfl
        cases holds
      rw [hoistedFunctions_eq, if_neg other, if_pos holds, List.mem_filter]
      exact ⟨mem_flatten_map_iff.mpr ⟨_, member, ih⟩, by simpa [bars_iff] using free⟩
  · induction n using induction with
    | mk kind lo hi children ih =>
      intro member
      rw [hoistedFunctions_eq] at member
      split at member
      · next plainly =>
        subst plainly
        cases children with
        | nil => cases member
        | cons name others => exact .function (names_iff.mpr member)
      · split at member
        · next holds =>
          obtain ⟨member, free⟩ := List.mem_filter.mp member
          obtain ⟨child, among, member⟩ := mem_flatten_map_iff.mp member
          exact .inside holds among (ih child among member) (by simpa [bars_iff] using free)
        · cases member

theorem varies_iff : Varies strict n text ↔ text ∈ n.vars strict := by
  rw [Varies, vars, List.mem_append, hoists_iff, hoistsFunction_iff]
  cases strict <;> simp

/-- What the scopes hold that the parameters and the body of a function make. -/
theorem exists_called_iff {front : Nat} : (∃ scope ∈ called strict children front i, text ∈ scope) ↔
    ∃ names parameters body, names.length = front ∧ children = names ++ (parameters ++ [body]) ∧ front ≤ i ∧
      ((∃ parameter ∈ parameters, Names parameter text) ∨ i = front + parameters.length ∧ Varies strict body text) := by
  have holds (parameters : List Node) (body : Node) :
      (∃ scope ∈ (if i + 1 = front + (parameters ++ [body]).length then
          [((parameters ++ [body]).map (vars strict)).getLastD []] else []) ++
            [((parameters ++ [body]).map bound).dropLast.flatten], text ∈ scope) ↔
        (∃ parameter ∈ parameters, Names parameter text) ∨ i = front + parameters.length ∧ Varies strict body text := by
    rw [List.map_append, List.map_append, List.map_singleton, List.map_singleton, List.getLastD_concat,
      List.dropLast_concat, varies_iff, List.length_append, List.length_singleton, ← Nat.add_assoc]
    by_cases here : i = front + parameters.length
    · simp [here, names_iff, or_comm]
    · simp [here, names_iff]
  constructor
  · rintro ⟨scope, member, among⟩
    unfold called at member
    split at member
    · cases member
    next inside =>
    rcases List.eq_nil_or_concat (children.drop front) with none | ⟨parameters, body, split⟩
    · simp only [none, List.map_nil, List.dropLast_nil, List.flatten_nil, List.getLastD_nil] at member
      have empty : scope = [] := by
        split at member <;> simpa using member
      rw [empty] at among
      cases among
    · rw [List.concat_eq_append] at split
      rw [split] at member
      have more := congrArg List.length split
      rw [List.length_drop, List.length_append, List.length_singleton] at more
      refine ⟨children.take front, parameters, body, ?_, ?_, Nat.le_of_not_lt inside,
        (holds parameters body).mp ⟨scope, member, among⟩⟩
      · rw [List.length_take]
        omega
      · rw [← split, List.take_append_drop]
  · rintro ⟨names, parameters, body, rfl, rfl, inside, found⟩
    unfold called
    rw [if_neg (Nat.not_lt.mpr inside), List.drop_left]
    exact (holds parameters body).mpr found

theorem binds_of_called {front : Nat} (calls : kind.leading? = some front)
    (found : ∃ scope ∈ called strict children front i, text ∈ scope) : Binds strict (mk kind lo hi children) i text := by
  obtain ⟨names, parameters, body, rfl, rfl, inside, ⟨parameter, member, named⟩ | ⟨rfl, varies⟩⟩ :=
    exists_called_iff.mp found
  · exact .parameter calls member named inside
  · exact .varied calls varies

theorem called_subset_opened {front : Nat} (calls : kind.leading? = some front) :
    called strict children front i ⊆ (mk kind lo hi children).opened strict i := by
  unfold Kind.leading? at calls
  split at calls
  all_goals first
    | cases calls
      first
        | exact List.Subset.refl _
        | exact List.subset_append_left ..
    | cases calls

theorem binds_of_opened {scope : Scope} (member : scope ∈ n.opened strict i) (found : text ∈ scope) :
    Binds strict n i text := by
  obtain ⟨kind, lo, hi, children⟩ := n
  have only {names : Scope} (member : scope ∈ if i = 0 then [] else [names]) : i ≠ 0 ∧ text ∈ names := by
    split at member
    · cases member
    · next inside => exact ⟨inside, List.mem_singleton.mp member ▸ found⟩
  have first (member : text ∈ (children.map bound).headD []) :
      ∃ name others, children = name :: others ∧ Names name text := by
    cases children with
    | nil => cases member
    | cons name others => exact ⟨name, others, rfl, names_iff.mpr member⟩
  have enclosed (inside : kind = .switch → i ≠ 0) (found : text ∈ (mk kind lo hi children).inner true) :
      Binds strict (mk kind lo hi children) i text := .statement (encloses_iff.mpr found) inside
  have ofClass (isClass : kind = .classExpression ∨ kind = .classDeclaration)
      (member : scope ∈ if i = 0 then [] else [(children.map bound).headD []]) :
      Binds strict (mk kind lo hi children) i text := by
    obtain ⟨inside, found⟩ := only member
    obtain ⟨name, others, rfl, names⟩ := first found
    exact .className isClass names inside
  unfold opened at member
  simp only [kind_mk, children_mk] at member
  split at member
  · obtain rfl := List.mem_singleton.mp member
    rcases List.mem_append.mp found with found | found
    · obtain ⟨statement, among, found⟩ := mem_flatten_map_iff.mp found
      exact .script among (.inl (declares_iff.mpr found))
    · obtain ⟨statement, among, found⟩ := mem_flatten_map_iff.mp found
      exact .script among (.inr (varies_iff.mpr found))
  · exact binds_of_called rfl ⟨scope, member, found⟩
  · rcases List.mem_append.mp member with member | member
    · exact binds_of_called rfl ⟨scope, member, found⟩
    · obtain ⟨inside, found⟩ := only member
      obtain ⟨name, others, rfl, names⟩ := first found
      exact .ownName names inside
  · exact binds_of_called rfl ⟨scope, member, found⟩
  · exact binds_of_called rfl ⟨scope, member, found⟩
  · exact binds_of_called rfl ⟨scope, member, found⟩
  · exact binds_of_called rfl ⟨scope, member, found⟩
  · exact ofClass (.inl rfl) member
  · exact ofClass (.inr rfl) member
  · obtain rfl := List.mem_singleton.mp member
    obtain ⟨statement, among, found⟩ := mem_flatten_map_iff.mp found
    exact .staticBlock among (varies_iff.mpr found)
  · obtain ⟨inside, found⟩ := only member
    exact enclosed (fun _ => inside) found
  · exact enclosed nofun (List.mem_singleton.mp member ▸ found)
  · exact enclosed nofun (List.mem_singleton.mp member ▸ found)
  · exact enclosed nofun (List.mem_singleton.mp member ▸ found)
  · exact enclosed nofun (List.mem_singleton.mp member ▸ found)
  · obtain rfl := List.mem_singleton.mp member
    obtain ⟨target, others, rfl, names⟩ := first found
    exact .caught names
  · cases member

theorem Binds.exists_opened (binds : Binds strict n i text) : ∃ scope ∈ n.opened strict i, text ∈ scope := by
  cases binds with
  | parameter calls member names inside =>
    obtain ⟨scope, member, found⟩ : ∃ scope ∈ called strict _ _ _, text ∈ scope :=
      exists_called_iff.mpr ⟨_, _, _, rfl, rfl, inside, .inl ⟨_, member, names⟩⟩
    exact ⟨scope, called_subset_opened calls member, found⟩
  | varied calls varies =>
    obtain ⟨scope, member, found⟩ := exists_called_iff.mpr ⟨_, _, _, rfl, rfl, Nat.le_add_right .., .inr ⟨rfl, varies⟩⟩
    exact ⟨scope, called_subset_opened calls member, found⟩
  | @ownName _ _ _ _ _ name _ _ names inside =>
    exact ⟨name.bound, List.mem_append_right _ (by simp [inside]), names_iff.mp names⟩
  | @className _ _ _ _ name _ _ isClass names inside =>
    refine ⟨name.bound, ?_, names_iff.mp names⟩
    rcases isClass with rfl | rfl <;> simp [opened, inside]
  | script member binds =>
    refine ⟨_, List.mem_singleton_self _, List.mem_append.mpr ?_⟩
    exact binds.imp (fun declares => mem_flatten_map_iff.mpr ⟨_, member, declares_iff.mp declares⟩)
      fun varies => mem_flatten_map_iff.mpr ⟨_, member, varies_iff.mp varies⟩
  | staticBlock member varies =>
    exact ⟨_, List.mem_singleton_self _, mem_flatten_map_iff.mpr ⟨_, member, varies_iff.mp varies⟩⟩
  | statement encloses inside =>
    refine ⟨n.inner true, ?_, encloses_iff.mp encloses⟩
    cases encloses with
    | block => exact List.mem_singleton_self _
    | switch => simp [opened, inside rfl]
    | loop loops => rcases loops with rfl | rfl | ⟨_, rfl⟩ <;> exact List.mem_singleton_self _
  | caught names => exact ⟨_, List.mem_singleton_self _, names_iff.mp names⟩

/-- A node opens scopes with the names that it binds, and with no others. -/
theorem exists_opened_iff : (∃ scope ∈ n.opened strict i, text ∈ scope) ↔ Binds strict n i text :=
  ⟨fun ⟨_, member, found⟩ => binds_of_opened member found, Binds.exists_opened⟩

theorem inScope_cons_iff {path : List Nat} : InScope strict n (i :: path) text ↔
    Binds (strict || n.isStrict i) n i text ∨
      ∃ child, n.children[i]? = some child ∧ InScope (strict || n.isStrict i) child path text := by
  constructor
  · rintro (binds | ⟨there, within⟩)
    · exact .inl binds
    · exact .inr ⟨_, there, within⟩
  · rintro (binds | ⟨child, there, within⟩)
    · exact .here binds
    · exact .deeper there within

/-- A name is bound by no node above a place exactly if the place is in the scope of no binding of it. -/
theorem binder?_eq_none_iff {path : List Nat} :
    n.binder? strict path text = Option.none ↔ ¬ InScope strict n path text := by
  induction path generalizing n strict with
  | nil => exact iff_of_true rfl nofun
  | cons i path ih =>
    rw [inScope_cons_iff, not_or, ← exists_opened_iff, binder?]
    have below : (n.children[i]?.bind fun child => child.binder? (strict || n.isStrict i) path text) = Option.none ↔
        ¬ ∃ child, n.children[i]? = some child ∧ InScope (strict || n.isStrict i) child path text := by
      rw [Option.bind_eq_none_iff]
      simp only [ih, not_exists, not_and]
    rw [← below]
    cases n.children[i]?.bind fun child => child.binder? (strict || n.isStrict i) path text with
    | some above => simp
    | none => simp

theorem isSome_binder?_iff {path : List Nat} : (n.binder? strict path text).isSome = true ↔ InScope strict n path text := by
  rw [← not_iff_not, ← binder?_eq_none_iff, Option.not_isSome_iff_eq_none]

instance {path : List Nat} : Decidable (InScope strict n path text) := decidable_of_iff _ isSome_binder?_iff

end Node

end Bundler.Script
