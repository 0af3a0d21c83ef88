import Bundler.Proofs.Script.Reading.Script
import Bundler.Proofs.Script.Require

/-!
The order in which a module requires others, and the place where a script is refused. Both follow the text, but for the
calls of `require` that are visited in another order than they are written.
-/

namespace Bundler

open Script

variable {extension source : String} {id : ModuleId} {parsed : Parsed}

/-- Dependencies come in the order of the text, and of the calls that are refused the first one is reported, exactly if no
such call stands in the body of a loop whose test holds another one, or in the superclass of a class whose members do. -/
theorem rewrite_in_text_order_iff (parses : parse (Text.stripByteOrderMark source) = .ok parsed) :
    let root := parsed.root
    let result := (rewrite extension id source).result
    root.textual.Perm root.sites ∧ (root.textual.Pairwise fun one other => one.lo < other.lo) ∧
    (∀ written, result = .ok written → ∃ specifiers : List String,
      root.sites.map Node.demand = specifiers.map .ok ∧
      written.dependencies = specifiers.map (fun specifier => .resolve specifier id.parentDir extension) ∧
      ((root.sites.Pairwise fun one other => one.lo < other.lo) ↔ ¬ ∃ early late, Node.Swapped early late root)) ∧
    ∀ call, result = .error (.unsupported call) → ∃ site ∈ root.sites, ∃ shape,
      site.demand = .error shape ∧ call = ⟨id, .of (Text.stripByteOrderMark source) site.lo, shape⟩ ∧
      ((∀ other ∈ root.sites, ∀ shape', other.demand = .error shape' → site.lo ≤ other.lo) ↔
        ¬ ∃ other shape', other.demand = .error shape' ∧ Node.Swapped site other root) := by
  intro root result
  have sorted : root.Sorted := parse_sorted parses
  have rewrites : result = (rewriteParsed extension id (Text.stripByteOrderMark source) parsed).result :=
    congrArg Rewriting.result (rewrite_parsed parses)
  obtain ⟨links, refuses⟩ := rewriteParsed_sites extension id (Text.stripByteOrderMark source) parsed
  refine ⟨root.textual_perm, sorted, fun written accepted => ?_, fun call refused => ?_⟩
  · by_cases met : ∃ specifiers : List String, root.sites.map Node.demand = specifiers.map .ok
    · obtain ⟨specifiers, fine⟩ := met
      obtain ⟨_, ⟨written', same, _, dependencies⟩, _⟩ := links specifiers fine
      cases (rewrites.trans same).symm.trans accepted
      exact ⟨specifiers, fine, dependencies, sorted.sites_iff⟩
    · obtain ⟨_, _, _, _, _, _, _, stops⟩ := refuses met
      cases (rewrites.trans stops).symm.trans accepted
  · by_cases met : ∃ specifiers : List String, root.sites.map Node.demand = specifiers.map .ok
    · obtain ⟨specifiers, fine⟩ := met
      obtain ⟨_, ⟨_, same, _⟩, _⟩ := links specifiers fine
      cases (rewrites.trans same).symm.trans refused
    · obtain ⟨before, site, after, shape, split, ⟨specifiers, fine⟩, demands, stops⟩ := refuses met
      cases (rewrites.trans stops).symm.trans refused
      have among : site ∈ root.sites := split ▸ List.mem_append_right _ List.mem_cons_self
      refine ⟨site, among, shape, demands, rfl, ?_, fun none other member shape' demands' => ?_⟩
      · rintro first ⟨other, shape', demands', swapped⟩
        have member : other ∈ root.sites := swapped.sublist.subset (by simp)
        exact absurd (first other member shape' demands') (Nat.not_le.mpr (swapped.lt sorted))
      · -- a call that is refused is none of those that are visited first
        rw [split, List.mem_append, List.mem_cons] at member
        rcases member with earlier | rfl | later
        · have fits := List.mem_map_of_mem (f := Node.demand) earlier
          rw [fine, demands'] at fits
          simp at fits
        · exact Nat.le_refl _
        · exact Nat.le_of_lt ((sorted.lt_or_swapped split later).resolve_right fun swapped =>
            none ⟨other, shape', demands', swapped⟩)

/-- A loop and a class whose calls are visited as they are written, and a loop whose test is visited before its body, where
only the body holds a call that is refused. -/
theorem rewrite_in_text_order_loop :
    let accepted := "do \x7b require('./a'); \x7d while (n--);\nclass B extends require('./b') \x7b m() \x7b \x7d \x7d"
    let refused := "do \x7b require('./a', require(x)); \x7d while (require('./b'));"
    let id : ModuleId := ⟨"./main.js"⟩
    (∃ written parsed, (rewrite "js" id accepted).result = .ok written ∧ written.dependencies = [⟨"./a.js"⟩, ⟨"./b.js"⟩] ∧
      parse (Text.stripByteOrderMark accepted) = .ok parsed ∧ ¬ ∃ early late, Node.Swapped early late parsed.root) ∧
    ∃ parsed, ∃ site ∈ parsed.root.sites,
      (rewrite "js" id refused).result = .error (.unsupported ⟨id, ⟨1, 21⟩, .nonLiteralArgument⟩) ∧
      parse (Text.stripByteOrderMark refused) = .ok parsed ∧ site.lo = 20 ∧
      ¬ ∃ other shape, other.demand = .error shape ∧ Node.Swapped site other parsed.root := by
  intro accepted refused id
  constructor
  · have rewrites : (rewrite "js" id accepted).result.map RewrittenModule.dependencies = .ok [⟨"./a.js"⟩, ⟨"./b.js"⟩] := by
      decide +kernel
    have visits : (parse (Text.stripByteOrderMark accepted)).map (·.root.sites.map Node.lo) = .ok [5, 52] := by
      decide +kernel
    obtain ⟨written, goes, means⟩ := exists_of_map_eq_ok rewrites
    obtain ⟨parsed, parses, places⟩ := exists_of_map_eq_ok visits
    obtain ⟨_, _, _, ordered⟩ := (rewrite_in_text_order_iff parses).2.2.1 written goes
    refine ⟨written, parsed, goes, means, parses, ordered.mp ?_⟩
    have increasing : (parsed.root.sites.map Node.lo).Pairwise (· < ·) := by
      rw [places]
      decide
    exact List.pairwise_map.mp increasing
  · have rewrites : (rewrite "js" id refused).result.map RewrittenModule.dependencies =
        .error (.unsupported ⟨id, ⟨1, 21⟩, .nonLiteralArgument⟩) := by decide +kernel
    have visits : (parse (Text.stripByteOrderMark refused)).map (fun parsed =>
        (parsed.root.sites.filter (·.demand.toOption.isNone)).map Node.lo) = .ok [20] := by decide +kernel
    have goes := eq_error_of_map rewrites
    obtain ⟨parsed, parses, places⟩ := exists_of_map_eq_ok visits
    have only (other : Node) (member : other ∈ parsed.root.sites) (shape : RequireShape)
        (demands : other.demand = .error shape) : other.lo = 20 := by
      have among : other ∈ parsed.root.sites.filter (·.demand.toOption.isNone) :=
        List.mem_filter.mpr ⟨member, by rw [demands]; rfl⟩
      have place : other.lo ∈ [20] := places ▸ List.mem_map_of_mem among
      exact List.mem_singleton.mp place
    obtain ⟨site, member, shape, demands, _, first⟩ := (rewrite_in_text_order_iff parses).2.2.2 _ goes
    have place := only site member shape demands
    refine ⟨parsed, site, member, goes, parses, place, first.mp fun other member shape demands => ?_⟩
    exact Nat.le_of_eq (place.trans (only other member shape demands).symm)

/-- The test of a loop comes before its body, and the members of a class before its superclass. -/
theorem rewrite_against_text_order :
    let loop := "do \x7b require('./a'); \x7d while (require('./b'));"
    let heir := "class A extends require(x) \x7b m() \x7b require(y); \x7d \x7d"
    let id : ModuleId := ⟨"./main.js"⟩
    (∃ written parsed, (rewrite "js" id loop).result = .ok written ∧ written.dependencies = [⟨"./b.js"⟩, ⟨"./a.js"⟩] ∧
      parse (Text.stripByteOrderMark loop) = .ok parsed ∧
      parsed.root.textual.map (fun call => (call.lo, call.demand.toOption)) = [(5, some "./a"), (30, some "./b")]) ∧
    ∃ parsed, (rewrite "js" id heir).result = .error (.unsupported ⟨id, ⟨1, 36⟩, .nonLiteralArgument⟩) ∧
      parse (Text.stripByteOrderMark heir) = .ok parsed ∧
      parsed.root.textual.map (fun call => (call.lo, call.demand.toOption)) = [(16, none), (35, none)] := by
  intro loop heir id
  constructor
  · have rewrites : (rewrite "js" id loop).result.map RewrittenModule.dependencies = .ok [⟨"./b.js"⟩, ⟨"./a.js"⟩] := by
      decide +kernel
    have stands : (parse (Text.stripByteOrderMark loop)).map (·.root.textual.map fun call =>
        (call.lo, call.demand.toOption)) = .ok [(5, some "./a"), (30, some "./b")] := by decide +kernel
    obtain ⟨written, goes, means⟩ := exists_of_map_eq_ok rewrites
    obtain ⟨parsed, parses, places⟩ := exists_of_map_eq_ok stands
    exact ⟨written, parsed, goes, means, parses, places⟩
  · have rewrites : (rewrite "js" id heir).result.map RewrittenModule.dependencies =
        .error (.unsupported ⟨id, ⟨1, 36⟩, .nonLiteralArgument⟩) := by decide +kernel
    have stands : (parse (Text.stripByteOrderMark heir)).map (·.root.textual.map fun call =>
        (call.lo, call.demand.toOption)) = .ok [(16, none), (35, none)] := by decide +kernel
    obtain ⟨parsed, parses, places⟩ := exists_of_map_eq_ok stands
    exact ⟨parsed, eq_error_of_map rewrites, parses, places⟩

end Bundler
