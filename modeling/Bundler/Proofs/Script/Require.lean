import Bundler.Proofs.Script.Sites

/-!
What the walk of a tree comes to, said of the calls of `require` in it: it collects what they ask for in the order of
the nodes, up to the first that is refused, and replaces them.
-/

namespace Bundler

namespace Script

variable {α β : Type} {resolve : String → ModuleId} {walk : Walk α} {next : α → Walk β} {sites sites' : List Node}
  {n site : Node} {a : α} {b : β}

/-- What the calls of a list ask for, up to the first that is refused, and its refusal. -/
def met : List Node → List String × Option Refusal
  | [] => ([], none)
  | site :: rest =>
    match site.demand with
    | .ok specifier => (specifier :: (met rest).1, (met rest).2)
    | .error shape => ([], some ⟨site.lo, shape⟩)

theorem met_append (sites sites' : List Node) : met (sites ++ sites') =
    match (met sites).2 with
    | none => ((met sites).1 ++ (met sites').1, (met sites').2)
    | some _ => met sites := by
  induction sites with
  | nil => rfl
  | cons site rest ih =>
    simp only [List.cons_append, met]
    cases site.demand with
    | error shape => rfl
    | ok specifier =>
      cases found : (met rest).2 <;> simp [ih, found]

theorem met_fine {specifiers : List String} (fine : sites.map Node.demand = specifiers.map .ok) :
    met sites = (specifiers, none) := by
  induction sites generalizing specifiers with
  | nil =>
    obtain rfl : specifiers = [] := by simpa using fine.symm
    rfl
  | cons site rest ih =>
    cases specifiers with
    | nil => simp at fine
    | cons specifier specifiers =>
      simp only [List.map_cons, List.cons.injEq] at fine
      rw [met, fine.1, ih fine.2]

/-- Calls that all have a specifier, or the first that has none. -/
theorem fine_or_refused (sites : List Node) : (∃ specifiers : List String, sites.map Node.demand = specifiers.map .ok) ∨
    ∃ before site after shape, ∃ specifiers : List String, sites = before ++ site :: after ∧
      before.map Node.demand = specifiers.map .ok ∧ site.demand = .error shape := by
  induction sites with
  | nil => exact .inl ⟨[], rfl⟩
  | cons site rest ih =>
    cases demanded : site.demand with
    | error shape => exact .inr ⟨[], site, rest, shape, [], rfl, rfl, demanded⟩
    | ok specifier =>
      rcases ih with ⟨specifiers, fine⟩ | ⟨before, other, after, shape, specifiers, split, fine, refused⟩
      · exact .inl ⟨specifier :: specifiers, by simp [demanded, fine]⟩
      · exact .inr ⟨site :: before, other, after, shape, specifier :: specifiers, by simp [split],
          by simp [demanded, fine], refused⟩

/-- A walk past some calls: it collects what they ask for, and gives a value unless one of them is refused. -/
def Passes (resolve : String → ModuleId) (walk : Walk α) (sites : List Node) (a : α) : Prop :=
  ∀ found, walk.run.run found =
    (match (met sites).2 with
      | none => .ok a
      | some refusal => .error refusal,
      ((met sites).1.map fun specifier => ⟨specifier, resolve specifier⟩).reverse ++ found)

namespace Passes

theorem pure (a : α) : Passes resolve (Pure.pure a : Walk α) [] a := fun _ => rfl

theorem refuse {shape : RequireShape} (calls : site.isSite = true) (refused : site.demand = .error shape) (a : α) :
    Passes resolve (MonadExcept.throw ⟨site.lo, shape⟩ : Walk α) site.sites a := by
  intro found
  obtain ⟨kind, lo, hi, children⟩ := site
  rw [Node.sites_mk, calls, if_pos rfl, List.singleton_append]
  simp only [met, refused]
  rfl

theorem collect {specifier : String} (demanded : site.demand = .ok specifier) :
    Passes resolve (modify fun found => ⟨specifier, resolve specifier⟩ :: found : Walk Unit) [site] () := by
  intro found
  simp only [met, demanded]
  rfl

theorem bind (first : Passes resolve walk sites a) (second : Passes resolve (next a) sites' b) :
    Passes resolve (walk >>= next) (sites ++ sites') b := by
  intro found
  rw [ExceptT.run_bind, StateT.run_bind, first found, met_append]
  cases ended : (met sites).2 with
  | some refusal =>
    simp only [ended]
    rfl
  | none =>
    simp only [List.map_append, List.reverse_append, List.append_assoc]
    exact second _

theorem map (f : α → β) (passes : Passes resolve walk sites a) :
    Passes resolve (walk >>= fun value => Pure.pure (f value)) sites (f a) := by
  have both : Passes resolve (walk >>= fun value => Pure.pure (f value)) (sites ++ []) (f a) := passes.bind (.pure (f a))
  rwa [List.append_nil] at both

end Passes

theorem relink_other (other : n.isSite = false) :
    relink resolve n = relinkAll resolve n.children >>= fun children => Pure.pure (.mk n.kind n.lo n.hi children) := by
  obtain ⟨kind, lo, hi, children⟩ := n
  unfold relink
  split
  · exact if_neg (by simpa [Node.isSite] using other)
  · exact if_neg (by simpa [Node.isSite] using other)
  · rfl

theorem relink_refused {shape : RequireShape} (calls : n.isSite = true) (refused : n.demand = .error shape) :
    relink resolve n = throw ⟨n.lo, shape⟩ := by
  obtain ⟨kind, lo, hi, children⟩ := n
  match kind, children with
  | .call, [.mk calleeKind calleeLo calleeHi below] =>
    have named : isRequireName (.mk calleeKind calleeLo calleeHi below) = true := calls
    cases refused
    unfold relink
    simp only [named, if_true]
    rfl
  | .call, .mk calleeKind calleeLo calleeHi below :: .mk firstKind _ _ _ :: _ =>
    have named : isRequireName (.mk calleeKind calleeLo calleeHi below) = true := calls
    simp only [Node.demand, Node.kind_mk, Node.children_mk] at refused
    unfold relink
    simp only [named, if_true]
    split at refused
    · cases refused
    · cases refused
      rfl
    · next string spread =>
      cases refused
      split
      · contradiction
      · next given =>
        cases given
        exact absurd rfl spread
      · next given =>
        cases given
        exact absurd rfl (string _ _)
      · rfl
  | .chainCall _, callee :: _ =>
    have named : isRequireName callee = true := calls
    cases refused
    unfold relink
    simp only [named, if_true]
    rfl

/-- The walk from a call with a specifier goes on below its callee and its arguments. -/
theorem relink_call {specifier : String} {raw : Option String} {lo hi calleeLo calleeHi firstLo firstHi : Nat}
    {below within others below' within' others' : List Node} {sites₁ sites₂ sites₃ : List Node}
    (inCallee : Passes resolve (relinkAll resolve below) sites₁ below')
    (inFirst : Passes resolve (relinkAll resolve within) sites₂ within')
    (inOthers : Passes resolve (relinkAll resolve others) sites₃ others') :
    let site : Node := .mk .call lo hi (.mk (.name requireName) calleeLo calleeHi below ::
      .mk (.string specifier raw) firstLo firstHi within :: others)
    Passes resolve (relink resolve site) (site :: (sites₁ ++ (sites₂ ++ sites₃)))
      (.mk .call lo hi (.mk (.name Bundle.loaderName) calleeLo calleeHi below' ::
        .mk (.string (resolve specifier).text none) firstLo firstHi within' :: others')) := by
  intro site
  have collects : Passes resolve (modify fun found => ⟨specifier, resolve specifier⟩ :: found) [site] () := .collect rfl
  unfold relink
  rw [← List.singleton_append]
  refine Passes.bind collects ?_
  refine Passes.bind inCallee ?_
  refine Passes.bind inFirst ?_
  exact inOthers.map _

mutual

/-- The walk of a tree passes the calls in it, in the order of its nodes, and replaces them. -/
theorem relink_passes (resolve : String → ModuleId) (n : Node) :
    Passes resolve (relink resolve n) n.sites (n.map (Node.linked resolve)) := by
  cases calls : n.isSite with
  | false =>
    have visits := (relinkAll_passes resolve n.children).map (Node.mk n.kind n.lo n.hi)
    obtain ⟨kind, lo, hi, children⟩ := n
    rw [relink_other calls, Node.sites_mk, Node.map_mk,
      Node.linked_of_not_site (by rwa [Node.isSite_map Node.kind_map_linked]), calls]
    exact visits
  | true =>
    cases demanded : n.demand with
    | error shape =>
      rw [relink_refused calls demanded]
      exact .refuse calls demanded _
    | ok specifier =>
      obtain ⟨lo, hi, calleeLo, calleeHi, below, raw, firstLo, firstHi, within, others, rfl⟩ :=
        Node.call_of_demand calls demanded
      simpa [Node.sites_mk, Node.isSite, isRequireName, Node.map_mk, Node.linked] using
        relink_call (relinkAll_passes resolve below) (relinkAll_passes resolve within) (relinkAll_passes resolve others)
termination_by sizeOf n
decreasing_by
  · cases n
    simp only [Node.children_mk, Node.mk.sizeOf_spec]
    omega
  all_goals
    subst_vars
    simp only [Node.mk.sizeOf_spec, List.cons.sizeOf_spec]
    omega

theorem relinkAll_passes (resolve : String → ModuleId) (ns : List Node) :
    Passes resolve (relinkAll resolve ns) (ns.flatMap Node.sites) (ns.map (Node.map (Node.linked resolve))) := by
  cases ns with
  | nil => exact .pure []
  | cons n rest =>
    rw [List.flatMap_cons, List.map_cons]
    exact (relink_passes resolve n).bind ((relinkAll_passes resolve rest).map _)
termination_by sizeOf ns

end

/-- A second walk changes nothing and finds nothing. -/
theorem relink_of_sites_eq_nil (none : n.sites = []) (found : List Required) :
    (relink resolve n).run.run found = (.ok n, found) := by
  rw [relink_passes resolve n found, none, Node.map_linked_of_sites_eq_nil n none]
  rfl

end Script

open Script

theorem exists_of_map_eq_ok {ε α β : Type} {result : Except ε α} {f : α → β} {b : β} (maps : result.map f = .ok b) :
    ∃ a, result = .ok a ∧ f a = b := by
  cases result with
  | error e => cases maps
  | ok a => exact ⟨a, rfl, Except.ok.inj maps⟩

theorem eq_error_of_map {ε α β : Type} {result : Except ε α} {f : α → β} {e : ε} (maps : result.map f = .error e) :
    result = .error e := by
  cases result with
  | error e' => exact congrArg _ (Except.error.inj maps)
  | ok a => cases maps

variable {extension source : String} {id : ModuleId} {parsed : Parsed} {specifiers : List String}

theorem rewriteParsed_fine (fine : parsed.root.sites.map Node.demand = specifiers.map .ok) :
    let resolve (specifier : String) := ModuleId.resolve specifier id.parentDir extension
    let requires : List Required := specifiers.map fun specifier => ⟨specifier, resolve specifier⟩
    rewriteParsed extension id source parsed =
      ⟨.ok ⟨(Parsed.mk none (parsed.root.map (Node.linked resolve)) parsed.comments).print, requires⟩, requires⟩ := by
  intro resolve requires
  have walks := relink_passes resolve parsed.root []
  rw [met_fine fine, List.append_nil] at walks
  rw [rewriteParsed, walks]
  simp only [List.reverse_reverse]
  rfl

theorem rewriteParsed_refused {before after : List Node} {site : Node} {shape : RequireShape}
    (split : parsed.root.sites = before ++ site :: after) (fine : before.map Node.demand = specifiers.map .ok)
    (refused : site.demand = .error shape) :
    (rewriteParsed extension id source parsed).result = .error (.unsupported ⟨id, .of source site.lo, shape⟩) := by
  have walks := relink_passes (fun specifier => .resolve specifier id.parentDir extension) parsed.root []
  rw [split, met_append, met_fine fine] at walks
  simp only [met, refused] at walks
  rw [rewriteParsed, walks]

theorem rewrite_parsed (parses : parse (Text.stripByteOrderMark source) = .ok parsed) :
    rewrite extension id source = rewriteParsed extension id (Text.stripByteOrderMark source) parsed := by
  unfold rewrite
  simp only [parses]

theorem rewrite_malformed {e : SyntaxError} (fails : parse (Text.stripByteOrderMark source) = .error e) :
    rewrite extension id source =
      ⟨.error (.malformed id (.of (Text.stripByteOrderMark source) e.offset) e.problem), []⟩ := by
  unfold rewrite
  simp only [fails]

/-- What a script requires does not depend on its id, but for what the specifiers mean. -/
theorem rewrite_dependencies (extension source : String) : ∃ specifiers : Option (List String), ∀ id : ModuleId,
    (rewrite extension id source).result.toOption.map RewrittenModule.dependencies =
      specifiers.map (·.map fun specifier => .resolve specifier id.parentDir extension) := by
  cases parses : parse (Text.stripByteOrderMark source) with
  | error e => exact ⟨none, fun id => by rw [rewrite_malformed parses]; rfl⟩
  | ok parsed =>
    simp only [rewrite_parsed parses]
    rcases fine_or_refused parsed.root.sites with ⟨specifiers, fine⟩ | ⟨_, _, _, _, _, split, fine, refused⟩
    · refine ⟨some specifiers, fun id => ?_⟩
      rw [rewriteParsed_fine fine]
      simp [RewrittenModule.dependencies, Except.toOption]
    · refine ⟨none, fun id => ?_⟩
      rw [rewriteParsed_refused split fine refused]
      rfl

/-- Rewriting replaces the calls of `require` and leaves everything else as it is, and what a module requires is what
the calls ask for, in their order. The first call that does not ask for anything stops it. -/
theorem rewriteParsed_sites (extension : String) (id : ModuleId) (source : String) (parsed : Parsed) :
    let resolve (specifier : String) := ModuleId.resolve specifier id.parentDir extension
    let linked := parsed.root.map (Node.linked resolve)
    let result := (rewriteParsed extension id source parsed).result
    (∀ specifiers : List String, parsed.root.sites.map Node.demand = specifiers.map .ok →
      (∃ found, (relink resolve parsed.root).run.run [] = (.ok linked, found)) ∧
      (∃ written, result = .ok written ∧ written.code = (Parsed.mk none linked parsed.comments).print ∧
        written.dependencies = specifiers.map resolve) ∧
      linked.sites = [] ∧ ∀ resolve' found, (relink resolve' linked).run.run found = (.ok linked, found)) ∧
    ((¬ ∃ specifiers : List String, parsed.root.sites.map Node.demand = specifiers.map .ok) →
      ∃ before site after shape, parsed.root.sites = before ++ site :: after ∧
        (∃ specifiers : List String, before.map Node.demand = specifiers.map .ok) ∧ site.demand = .error shape ∧
        result = .error (.unsupported ⟨id, .of source site.lo, shape⟩)) := by
  intro resolve linked result
  constructor
  · intro specifiers fine
    have each (site : Node) (member : site ∈ parsed.root.sites) : ∃ specifier, site.demand = .ok specifier := by
      have among := List.mem_map_of_mem (f := Node.demand) member
      rw [fine] at among
      obtain ⟨specifier, _, same⟩ := List.mem_map.mp among
      exact ⟨specifier, same.symm⟩
    have gone : linked.sites = [] := Node.sites_map_linked parsed.root each
    have walks := relink_passes resolve parsed.root []
    rw [met_fine fine] at walks
    refine ⟨⟨_, walks⟩, ⟨_, congrArg Rewriting.result (rewriteParsed_fine fine), rfl, ?_⟩, gone,
      fun _ => relink_of_sites_eq_nil gone⟩
    simp [RewrittenModule.dependencies, resolve]
  · intro unmet
    obtain fine | ⟨before, site, after, shape, specifiers, split, fine, refused⟩ := fine_or_refused parsed.root.sites
    · exact absurd fine unmet
    · exact ⟨before, site, after, shape, split, ⟨specifiers, fine⟩, refused, rewriteParsed_refused split fine refused⟩

/-- A call in the arguments of another, behind the name of an interpreter, and a call that only has a name in it. -/
theorem rewriteParsed_sites_nested :
    let source := "#!node\nrequire('a', require('../b.v1'));\nrequire(x);"
    let inner : Node := .mk .call 20 38 [.mk (.name "require") 20 27 [], .mk (.string "../b.v1" none) 28 37 []]
    let outer : Node := .mk .call 7 39 [.mk (.name "require") 7 14 [], .mk (.string "a" none) 15 18 [], inner]
    let dynamic : Node := .mk .call 41 51 [.mk (.name "require") 41 48 [], .mk (.name "x") 49 50 []]
    let first : Node := .mk .expression 7 40 [outer]
    let second : Node := .mk .expression 41 52 [dynamic]
    let result (statements : List Node) :=
      (rewriteParsed "js" ⟨"./src/main.js"⟩ source ⟨some "node", .mk .script 7 52 statements, {}⟩).result
    (∃ written, result [first] = .ok written ∧ written.dependencies = [⟨"./src/a.js"⟩, ⟨"./b.v1"⟩] ∧
      written.code = "__loader__(\"./src/a.js\", __loader__(\"./b.v1\"));\n") ∧
    result [first, second] = .error (.unsupported ⟨⟨"./src/main.js"⟩, ⟨3, 1⟩, .nonLiteralArgument⟩) := by
  intro source inner outer dynamic first second result
  constructor
  · obtain ⟨_, ⟨written, rewrites, code, means⟩, _⟩ := (rewriteParsed_sites "js" ⟨"./src/main.js"⟩ source
      ⟨some "node", .mk .script 7 52 [first], {}⟩).1 ["a", "../b.v1"] rfl
    exact ⟨written, rewrites, means.trans (by decide +kernel), code.trans (by decide +kernel)⟩
  · have unmet (specifiers : List String) :
        [outer, inner, dynamic].map Node.demand ≠ specifiers.map .ok := by
      intro fine
      have among : (.error .nonLiteralArgument : Except RequireShape String) ∈ specifiers.map .ok :=
        fine ▸ List.mem_map.mpr ⟨dynamic, by simp, rfl⟩
      simp at among
    obtain ⟨before, site, after, shape, split, ⟨specifiers, fine⟩, refused, stops⟩ := (rewriteParsed_sites "js"
      ⟨"./src/main.js"⟩ source ⟨some "node", .mk .script 7 52 [first, second], {}⟩).2 fun ⟨specifiers, fine⟩ =>
        unmet specifiers fine
    have sites : [outer, inner, dynamic] = before ++ site :: after := split
    rcases before with _ | ⟨_, _ | ⟨_, _ | ⟨_, _⟩⟩⟩
    · obtain ⟨rfl, _⟩ := List.cons.inj sites
      cases refused
    · obtain ⟨rfl, _⟩ := List.cons.inj (List.cons.inj sites).2
      cases refused
    · obtain ⟨rfl, _⟩ := List.cons.inj (List.cons.inj (List.cons.inj sites).2).2
      cases refused
      exact stops.trans (congrArg _ (by decide +kernel))
    · simp at sites

end Bundler
