import Bundler.Script.Require
import Bundler.Proofs.Script.Tree

/-!
The calls of `require` in a tree, what each of them asks for, and the tree with all of them replaced.
-/

namespace Bundler

namespace Script

namespace Node

variable {n : Node} {kind : Kind} {lo hi : Nat} {children : List Node} {resolve : String → ModuleId}

/-- Whether a node calls the name `require`, through `?.` or not. -/
def isSite (n : Node) : Bool :=
  match n.kind, n.children with
  | .call, callee :: _ | .chainCall _, callee :: _ => isRequireName callee
  | _, _ => false

/-- The nodes of a tree that call `require`, in the order of its nodes. -/
def sites (n : Node) : List Node := n.nodes.filter isSite

/-- The specifier that a call of `require` is given, or why there is none. -/
def demand (n : Node) : Except RequireShape String :=
  match n.kind, n.children with
  | .call, _ :: first :: _ =>
    match first.kind with
    | .string specifier _ => .ok specifier
    | .spread => .error .spreadArgument
    | _ => .error .nonLiteralArgument
  | .call, _ => .error .missingArgument
  | _, _ => .error .optionalCall

/-- A call of `require` with the loader's name and the id for its specifier; any other node as it is. -/
def linked (resolve : String → ModuleId) (n : Node) : Node :=
  match n with
  | .mk .call lo hi (.mk (.name text) calleeLo calleeHi below :: .mk (.string specifier _) firstLo firstHi within ::
      others) =>
    if text = requireName then
      .mk .call lo hi (.mk (.name Bundle.loaderName) calleeLo calleeHi below ::
        .mk (.string (resolve specifier).text Option.none) firstLo firstHi within :: others)
    else n
  | n => n

theorem sites_mk : (mk kind lo hi children).sites =
    (if isSite (mk kind lo hi children) then [mk kind lo hi children] else []) ++ children.flatMap sites := by
  rw [sites, nodes_mk, List.filter_cons, List.filter_flatMap]
  split <;> rfl

theorem isRequireName_iff : isRequireName n = true ↔ n.kind = .name requireName := by
  unfold isRequireName
  split
  · next text named => simp [named]
  · next other => simpa using fun named => other _ named

/-- A site with a specifier is a plain call of the name, with a string in front. -/
theorem call_of_demand {specifier : String} (calls : isSite n = true) (fine : n.demand = .ok specifier) :
    ∃ lo hi calleeLo calleeHi below raw firstLo firstHi within others, n =
      .mk .call lo hi (.mk (.name requireName) calleeLo calleeHi below ::
        .mk (.string specifier raw) firstLo firstHi within :: others) := by
  obtain ⟨kind, lo, hi, children⟩ := n
  match kind, children with
  | .call, [] => cases fine
  | .call, [_] => cases fine
  | .call, .mk calleeKind calleeLo calleeHi below :: .mk firstKind firstLo firstHi within :: others =>
    obtain rfl : calleeKind = .name requireName := isRequireName_iff.mp calls
    simp only [demand, kind_mk, children_mk] at fine
    split at fine
    · cases fine
      exact ⟨lo, hi, calleeLo, calleeHi, below, _, firstLo, firstHi, within, others, rfl⟩
    · cases fine
    · cases fine
  | .chainCall _, _ => cases fine

/-- The kinds of the nodes right below a node say whether it calls `require`, and with what. -/
theorem isSite_map {g : Node → Node} (keeps : ∀ n, (g n).kind = n.kind) :
    isSite (.mk kind lo hi (children.map g)) = isSite (.mk kind lo hi children) := by
  have same (n : Node) : isRequireName (g n) = isRequireName n := by
    rw [Bool.eq_iff_iff, isRequireName_iff, isRequireName_iff, keeps]
  cases children with
  | nil => rfl
  | cons callee arguments => cases kind <;> simp [isSite, same]

theorem demand_map {g : Node → Node} (keeps : ∀ n, (g n).kind = n.kind) :
    demand (.mk kind lo hi (children.map g)) = demand (.mk kind lo hi children) := by
  match children with
  | [] => rfl
  | [callee] => cases kind <;> rfl
  | callee :: first :: others => cases kind <;> simp [demand, keeps]

theorem linked_of_not_site (other : isSite n = false) : linked resolve n = n := by
  unfold linked
  split
  · next text _ _ _ _ _ _ _ _ _ =>
    have apart : text ≠ requireName := by
      rintro rfl
      simp [isSite, isRequireName] at other
    rw [if_neg apart]
  · rfl

theorem kind_linked (n : Node) : (linked resolve n).kind = n.kind := by
  unfold linked
  split
  · split <;> rfl
  · rfl

theorem kind_map_linked (n : Node) : (n.map (linked resolve)).kind = n.kind := kind_map kind_linked n

/-- A call that has been replaced is none any more, but those below it are still there. -/
theorem sites_linked (fine : isSite n = true → ∃ specifier, n.demand = .ok specifier) :
    (linked resolve n).sites = n.children.flatMap sites := by
  cases calls : isSite n with
  | false =>
    obtain ⟨kind, lo, hi, children⟩ := n
    rw [linked_of_not_site calls, sites_mk, calls]
    rfl
  | true =>
    obtain ⟨specifier, demanded⟩ := fine calls
    obtain ⟨lo, hi, calleeLo, calleeHi, below, raw, firstLo, firstHi, within, others, rfl⟩ := call_of_demand calls demanded
    have renamed : Bundle.loaderName ≠ requireName := by decide
    simp [linked, sites_mk, isSite, isRequireName, renamed]

/-- No call of `require` is left where all of them have a specifier. -/
theorem sites_map_linked (n : Node) (fine : ∀ site ∈ n.sites, ∃ specifier, site.demand = .ok specifier) :
    (n.map (linked resolve)).sites = [] := by
  induction n using induction with
  | mk kind lo hi children ih =>
    have here : isSite (.mk kind lo hi (children.map (map (linked resolve)))) = true →
        ∃ specifier, demand (.mk kind lo hi (children.map (map (linked resolve)))) = .ok specifier := by
      rw [isSite_map kind_map_linked, demand_map kind_map_linked]
      intro calls
      exact fine _ (by simp [sites_mk, calls])
    rw [map_mk, sites_linked here, children_mk, List.flatMap_map, List.flatMap_eq_nil_iff]
    intro child member
    refine ih child member fun site below => fine site ?_
    rw [sites_mk]
    exact List.mem_append_right _ (List.mem_flatMap.mpr ⟨child, member, below⟩)

/-- A tree that does not call `require` stays what it is. -/
theorem map_linked_of_sites_eq_nil (n : Node) (none : n.sites = []) : n.map (linked resolve) = n := by
  induction n using induction with
  | mk kind lo hi children ih =>
    rw [sites_mk, List.append_eq_nil_iff, List.flatMap_eq_nil_iff] at none
    have calls : isSite (.mk kind lo hi children) = false := by simpa using none.1
    have same : children.map (map (linked resolve)) = children :=
      (List.map_congr_left fun child member => ih child member (none.2 child member)).trans (List.map_id' _)
    rw [map_mk, same, linked_of_not_site calls]

end Node

end Script

end Bundler
