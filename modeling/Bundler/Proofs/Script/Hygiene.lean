import Bundler.Proofs.Script.Binding
import Bundler.Proofs.Script.Reading.Script

/-!
What a renamed call means. Calls of `require` are renamed for their callee's name alone, and the function that a bundle
makes of a module has the loader for a parameter. A call has meant the `require` of the module system, and means that
parameter, exactly where no binding of the module comes between. A name is looked for along the scopes of the text: the
objects of `with`, code that is made at run time and what is assigned to a name are not looked at, and a `var` of the
module with the name of a parameter counts as the module's own.
-/

namespace Bundler

namespace Script

variable {source : String} {parsed : Parsed}

/-- The parameters by which a module is told of itself and loads others. -/
def parameterNames (loader : String) : List String := ["module", "exports", loader]

/-- A bundle makes a function with these parameters of a module, and the source up to the blanks at its end is the body. -/
theorem exists_factory (m : Module) : ∃ body, Text.Trims m.source body ∧
    Bundle.factory m = "  " ++ Text.Quoted.quote m.id.text ++ ": function (" ++
      ", ".intercalate (parameterNames Bundle.loaderName) ++ ") \x7b\n" ++ body ++ "\n  \x7d" := by
  refine ⟨Text.trimEnd m.source, Text.trims_iff.mpr rfl, ?_⟩
  have head : ": function (" ++ (", ".intercalate (parameterNames Bundle.loaderName) ++ ") \x7b\n") =
      ": function (module, exports, __loader__) \x7b\n" := by decide +kernel
  rw [Bundle.factory_eq, ← head]
  simp only [String.append_assoc]

/-- The parser reads them as such. -/
example : (parse ("(\x7b" ++ Bundle.factory ⟨⟨"./a.js"⟩, ⟨"/p/a.js"⟩, "", []⟩ ++ "\x7d)")).map (fun parsed =>
    (parsed.root.at? [0, 0, 0, 0, 1]).map fun function => (function.kind, function.children.dropLast.map Node.kind)) =
      .ok (some (.function false false, .absent :: (parameterNames Bundle.loaderName).map .name)) := by
  decide +kernel

namespace Node

variable {n m : Node} {path : List Nat} {loader : String}

/-- A function with these parameters and a script for its body, at 4. -/
def wrapped (loader : String) (script : Node) : Node :=
  .mk (.function false false) 0 0
    ([.none] ++ ((parameterNames loader).map (fun name => .mk (.name name) 0 0 []) ++ [script]))

/-- The parameter means the loader where no node of the script binds its name. -/
theorem binder?_wrapped (script : n.kind = .script) :
    (n.wrapped loader).binder? false (4 :: path) loader = some [] ↔ n.binder? false path loader = Option.none := by
  -- The body is a script and not a block, so whether it is strict is left to the script itself.
  have sloppy : (n.wrapped loader).isStrict 4 = false := by
    simp [wrapped, parameterNames, isStrict, script]
  have among : mk (.name loader) 0 0 [] ∈ (parameterNames loader).map fun name => mk (.name name) 0 0 [] := by
    simp [parameterNames]
  have binds : Binds false (n.wrapped loader) 4 loader := .parameter rfl among .name (by decide)
  have opens : ((n.wrapped loader).opened false 4).any (·.contains loader) = true := by
    simpa using exists_opened_iff.mpr binds
  have there : (n.wrapped loader).children[4]? = some n := rfl
  rw [binder?, sloppy, there, Bool.or_self, Option.bind_some, opens]
  cases n.binder? false path loader <;> simp

theorem mem_nodes_of_at? (found : n.at? path = some m) : m ∈ n.nodes := by
  induction path generalizing n with
  | nil =>
    cases found
    obtain ⟨kind, lo, hi, children⟩ := m
    rw [nodes_mk]
    exact List.mem_cons_self
  | cons i path ih =>
    obtain ⟨kind, lo, hi, children⟩ := n
    obtain ⟨child, there, found⟩ := Option.bind_eq_some_iff.mp found
    rw [nodes_mk]
    exact List.mem_cons_of_mem _ (List.mem_flatMap.mpr ⟨child, List.mem_of_getElem? there, ih found⟩)

end Node

end Script

open Script

/-- Calls are renamed for their callee's name alone: every call stays where it was, those of `require` and no others get
the loader's name, and no name at a call is bound elsewhere than before. So a renamed call has meant the `require` of the
module system exactly if it is in the scope of no binding of that name in the module, and means the loader parameter of
the function that a bundle makes of the module exactly if it is in the scope of no binding of the loader's name. -/
theorem rewrite_hygienic_iff {extension source : String} {id : ModuleId} {written : RewrittenModule}
    (accepted : (rewrite extension id source).result = .ok written) :
    ∃ parsed, parse (Text.stripByteOrderMark source) = .ok parsed ∧
      let root := parsed.root
      let linked := root.map (Node.linked fun specifier => .resolve specifier id.parentDir extension)
      written.code = (Parsed.mk none linked parsed.comments).print ∧
      (∀ m : Module, m.source = written.code → ∃ body, Text.Trims written.code body ∧
        Bundle.factory m = "  " ++ Text.Quoted.quote m.id.text ++ ": function (" ++
          ", ".intercalate (parameterNames Bundle.loaderName) ++ ") \x7b\n" ++ body ++ "\n  \x7d") ∧
      ∀ path call, root.at? path = some call → call.isCall = true →
        (∃ call', linked.at? path = some call' ∧ call'.callee? =
          if call.callee? = some (.name requireName) then some (.name Bundle.loaderName) else call.callee?) ∧
        (∀ name, linked.binder? false path name = root.binder? false path name) ∧
        (call.callee? = some (.name requireName) →
          ((root.wrapped requireName).binder? false (4 :: path) requireName = some [] ↔
            ¬ root.InScope false path requireName) ∧
          ((linked.wrapped Bundle.loaderName).binder? false (4 :: path) Bundle.loaderName = some [] ↔
            ¬ root.InScope false path Bundle.loaderName)) := by
  cases parses : parse (Text.stripByteOrderMark source) with
  | error e =>
    rw [rewrite_malformed parses] at accepted
    cases accepted
  | ok parsed =>
    rw [rewrite_parsed parses] at accepted
    obtain ⟨links, refuses⟩ := rewriteParsed_sites extension id (Text.stripByteOrderMark source) parsed
    by_cases met : ∃ specifiers : List String, parsed.root.sites.map Node.demand = specifiers.map .ok
    · obtain ⟨specifiers, fine⟩ := met
      obtain ⟨_, ⟨written', same, code, _⟩, _⟩ := links specifiers fine
      cases same.symm.trans accepted
      refine ⟨parsed, rfl, code, fun m same => same ▸ exists_factory m, fun path call found isCall =>
        ⟨⟨_, Node.at?_map_linked isCall found, ?_⟩, fun _ => Node.binder?_map_linked _, fun _ => ⟨?_, ?_⟩⟩⟩
      · have among := Node.mem_nodes_of_at? found
        rw [Node.callee?_map_linked fun calls => Node.exists_specifier fine (List.mem_filter.mpr ⟨among, calls⟩)]
        simp only [Node.isSite_iff_callee? isCall]
      · rw [Node.binder?_wrapped (kind_of_parse parses), Node.binder?_eq_none_iff]
      · rw [Node.binder?_wrapped ((Node.kind_map_linked _).trans (kind_of_parse parses)), Node.binder?_map_linked,
          Node.binder?_eq_none_iff]
    · obtain ⟨_, _, _, _, _, _, _, refused⟩ := refuses met
      cases refused.symm.trans accepted

/-- Of three calls that get the loader's name, the first one has meant a parameter, the second one comes to mean the
function that it is in, and only the third one has meant the `require` of the module system and means the loader. -/
theorem rewrite_hygienic_third :
    let source := "function f(require) \x7b return require('./b'); \x7d\n" ++
      "var g = function __loader__() \x7b return require('./c'); \x7d;\nrequire('./d');"
    let id : ModuleId := ⟨"./a.js"⟩
    ∃ written parsed, (rewrite "js" id source).result = .ok written ∧
      parse (Text.stripByteOrderMark source) = .ok parsed ∧
      let linked := parsed.root.map (Node.linked fun specifier => .resolve specifier id.parentDir "js")
      let meant (path : List Nat) : Prop :=
        (parsed.root.wrapped requireName).binder? false (4 :: path) requireName = some []
      let means (path : List Nat) : Prop :=
        (∃ call, linked.at? path = some call ∧ call.callee? = some (.name Bundle.loaderName)) ∧
          (linked.wrapped Bundle.loaderName).binder? false (4 :: path) Bundle.loaderName = some []
      (¬ meant [0, 2, 0, 0] ∧ means [0, 2, 0, 0]) ∧ (meant [1, 0, 1, 1, 0, 0] ∧ ¬ means [1, 0, 1, 1, 0, 0]) ∧
        meant [2, 0] ∧ means [2, 0] := by
  intro source id
  have rewrites : (rewrite "js" id source).result.map RewrittenModule.dependencies =
      .ok [⟨"./b.js"⟩, ⟨"./c.js"⟩, ⟨"./d.js"⟩] := by decide +kernel
  have stands : (parse (Text.stripByteOrderMark source)).map (fun parsed =>
      [[0, 2, 0, 0], [1, 0, 1, 1, 0, 0], [2, 0]].map fun path =>
        ((parsed.root.at? path).map fun call => (call.isCall, call.callee?),
          decide (parsed.root.InScope false path requireName), decide (parsed.root.InScope false path Bundle.loaderName))) =
      .ok [(some (true, some (.name requireName)), true, false), (some (true, some (.name requireName)), false, true),
        (some (true, some (.name requireName)), false, false)] := by decide +kernel
  obtain ⟨written, accepted, _⟩ := exists_of_map_eq_ok rewrites
  obtain ⟨parsed', parses', places⟩ := exists_of_map_eq_ok stands
  obtain ⟨parsed, parses, _, _, hygienic⟩ := rewrite_hygienic_iff accepted
  cases parses.symm.trans parses'
  simp only [List.map_cons, List.map_nil, List.cons.injEq, Prod.mk.injEq, Option.map_eq_some_iff, decide_eq_true_eq,
    decide_eq_false_iff_not, and_true] at places
  obtain ⟨⟨first, inParameter, fine⟩, ⟨second, fine', inFunction⟩, third, free, free'⟩ := places
  refine ⟨written, parsed', accepted, parses', ?_⟩
  intro linked meant means
  have settles (path : List Nat)
      (found : ∃ call, parsed'.root.at? path = some call ∧ call.isCall = true ∧ call.callee? = some (.name requireName)) :
      (meant path ↔ ¬ parsed'.root.InScope false path requireName) ∧
        (means path ↔ ¬ parsed'.root.InScope false path Bundle.loaderName) := by
    obtain ⟨call, there, isCall, calls⟩ := found
    obtain ⟨⟨call', there', renamed⟩, _, binds⟩ := hygienic path call there isCall
    rw [if_pos calls] at renamed
    exact ⟨(binds calls).1, (and_iff_right ⟨call', there', renamed⟩).trans (binds calls).2⟩
  refine ⟨⟨?_, ?_⟩, ⟨?_, ?_⟩, ?_, ?_⟩
  · exact fun holds => (settles _ first).1.mp holds inParameter
  · exact (settles _ first).2.mpr fine
  · exact (settles _ second).1.mpr fine'
  · exact fun holds => (settles _ second).2.mp holds inFunction
  · exact (settles _ third).1.mpr free
  · exact (settles _ third).2.mpr free'

/-- A call of what a function calls its parameter is a dependency all the same, and then calls another parameter. -/
theorem rewrite_renames_parameter :
    let source := "function f(require, __loader__) \x7b return require('./b'); \x7d"
    ∃ written parsed call, (rewrite "js" ⟨"./a.js"⟩ source).result = .ok written ∧
      written.dependencies = [⟨"./b.js"⟩] ∧ parse (Text.stripByteOrderMark source) = .ok parsed ∧
      parsed.root.at? [0, 3, 0, 0] = some call ∧ call.isSite = true ∧
      parsed.root.InScope false [0, 3, 0, 0] requireName ∧ parsed.root.InScope false [0, 3, 0, 0] Bundle.loaderName := by
  intro source
  have rewrites : (rewrite "js" ⟨"./a.js"⟩ source).result.map RewrittenModule.dependencies = .ok [⟨"./b.js"⟩] := by
    decide +kernel
  have captures : (parse (Text.stripByteOrderMark source)).map (fun parsed =>
      ((parsed.root.at? [0, 3, 0, 0]).map Node.isSite, decide (parsed.root.InScope false [0, 3, 0, 0] requireName),
        decide (parsed.root.InScope false [0, 3, 0, 0] Bundle.loaderName))) = .ok (some true, true, true) := by
    decide +kernel
  obtain ⟨written, accepted, means⟩ := exists_of_map_eq_ok rewrites
  obtain ⟨parsed, parses, captured⟩ := exists_of_map_eq_ok captures
  obtain ⟨there, first, second⟩ := Prod.mk.inj captured |>.imp_right Prod.mk.inj
  obtain ⟨call, found, calls⟩ := Option.map_eq_some_iff.mp there
  exact ⟨written, parsed, call, accepted, means, parses, found, calls, of_decide_eq_true first, of_decide_eq_true second⟩

end Bundler
