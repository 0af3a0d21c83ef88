import Bundler.Proofs.Script.Sites
import Mathlib.Data.List.Perm.Basic

/-!
The calls of `require` in a tree in the order of the text. The nodes of a tree are visited in another order in two places:
the test of a loop that ends with it comes before the body, and the superclass of a class behind the members.
-/

namespace Bundler.Script.Node

variable {α β : Type} {kind : Kind} {lo hi : Nat} {children : List Node} {n child early late : Node}

/-- What is there for each child of a node, in the order of the text. -/
def written (kind : Kind) (parts : List α) : List α :=
  match kind, parts with
  | .doWhile, [test, body] => [body, test]
  | .classExpression, name :: rest | .classDeclaration, name :: rest => name :: (rest.getLast?.toList ++ rest.dropLast)
  | _, parts => parts

/-- The nodes of a tree that call `require`, in the order of the text. -/
def textual (n : Node) : List Node := n.fold fun n below =>
  (if n.isSite then [n] else []) ++ (written n.kind (below.map (·.2))).flatten

theorem written_heir {name base : α} {members : List α} (heir : kind = .classExpression ∨ kind = .classDeclaration) :
    written kind (name :: (members ++ [base])) = name :: base :: members := by
  rcases heir with rfl | rfl <;> simp [written]

/-- The nodes that are visited in another order than the one of the text. -/
theorem written_cases (kind : Kind) (parts : List α) : written kind parts = parts ∨
    (∃ test body, kind = .doWhile ∧ parts = [test, body]) ∨
    ∃ name members base, (kind = .classExpression ∨ kind = .classDeclaration) ∧ parts = name :: (members ++ [base]) := by
  have heir (name : α) (rest : List α) : name :: (rest.getLast?.toList ++ rest.dropLast) = name :: rest ∨
      ∃ members base, rest = members ++ [base] := by
    rcases List.eq_nil_or_concat rest with rfl | ⟨members, base, rfl⟩
    · exact .inl rfl
    · exact .inr ⟨members, base, List.concat_eq_append⟩
  unfold written
  split
  · exact .inr (.inl ⟨_, _, rfl, rfl⟩)
  · next name rest =>
    refine (heir name rest).imp id fun ⟨members, base, same⟩ => .inr ⟨name, members, base, .inl rfl, congrArg _ same⟩
  · next name rest =>
    refine (heir name rest).imp id fun ⟨members, base, same⟩ => .inr ⟨name, members, base, .inr rfl, congrArg _ same⟩
  · exact .inl rfl

theorem written_perm (kind : Kind) (parts : List α) : (written kind parts).Perm parts := by
  rcases written_cases kind parts with same | ⟨test, body, rfl, rfl⟩ | ⟨name, members, base, heir, rfl⟩
  · rw [same]
  · exact .swap ..
  · rw [written_heir heir]
    have swap : ([base] ++ members).Perm (members ++ [base]) := List.perm_append_comm
    exact .cons name swap

theorem written_map (kind : Kind) (f : α → β) (parts : List α) : written kind (parts.map f) = (written kind parts).map f := by
  have heir (name : α) (rest : List α) : f name :: ((rest.map f).getLast?.toList ++ (rest.map f).dropLast) =
      (name :: (rest.getLast?.toList ++ rest.dropLast)).map f := by
    simp [List.getLast?_map, List.map_dropLast, Option.toList_map]
  match parts with
  | [] => cases kind <;> rfl
  | [_] => cases kind <;> rfl
  | [name, base] => cases kind <;> rfl
  | name :: first :: second :: rest => cases kind <;> first | rfl | exact heir name (first :: second :: rest)

theorem textual_mk : (mk kind lo hi children).textual =
    (if isSite (mk kind lo hi children) then [mk kind lo hi children] else []) ++ (written kind children).flatMap textual := by
  rw [textual, fold_mk, List.map_map, List.flatMap_def, ← written_map]
  rfl

theorem textual_perm (n : Node) : n.textual.Perm n.sites := by
  induction n using induction with
  | mk kind lo hi children ih =>
    rw [textual_mk, sites_mk]
    exact .append (.refl _) (.flatMap (written_perm kind children) fun child among =>
      ih child ((written_perm kind children).mem_iff.mp among))

theorem mem_textual {site : Node} : site ∈ n.textual ↔ site ∈ n.sites := (textual_perm n).mem_iff

/-- Whether a call stands behind another one in the text and is visited before it: one in the test of a loop and one in its
body, or one in a member of a class and one in its superclass. -/
inductive Swapped (early late : Node) : Node → Prop
  | loop {lo hi : Nat} {test body : Node} (visited : early ∈ test.sites) (written : late ∈ body.sites) :
    Swapped early late (mk .doWhile lo hi [test, body])
  | heir {kind : Kind} {lo hi : Nat} {name member base : Node} {members : List Node}
    (heir : kind = .classExpression ∨ kind = .classDeclaration) (among : member ∈ members) (visited : early ∈ member.sites)
    (written : late ∈ base.sites) : Swapped early late (mk kind lo hi (name :: (members ++ [base])))
  | inside {kind : Kind} {lo hi : Nat} {child : Node} {children : List Node} (among : child ∈ children)
    (swapped : Swapped early late child) : Swapped early late (mk kind lo hi children)

/-- Whether the calls of a tree stand one behind another. -/
def Sorted (n : Node) : Prop := n.textual.Pairwise fun one other => one.lo < other.lo

theorem Sorted.below (sorted : (mk kind lo hi children).Sorted) (among : child ∈ children) : child.Sorted := by
  unfold Sorted at sorted
  rw [textual_mk, List.pairwise_append] at sorted
  exact (List.pairwise_flatMap.mp sorted.2.1).1 child ((written_perm kind children).mem_iff.mpr among)

/-- Calls below a child stand before calls below one that is written behind it. -/
theorem Sorted.apart (sorted : (mk kind lo hi children).Sorted) :
    (written kind children).Pairwise fun one other => ∀ early ∈ one.sites, ∀ late ∈ other.sites, early.lo < late.lo := by
  unfold Sorted at sorted
  rw [textual_mk, List.pairwise_append] at sorted
  exact (List.pairwise_flatMap.mp sorted.2.1).2.imp fun apart early first late second =>
    apart early (mem_textual.mpr first) late (mem_textual.mpr second)

/-- Calls are swapped against the text. -/
theorem Swapped.lt (swapped : Swapped early late n) (sorted : n.Sorted) : late.lo < early.lo := by
  induction swapped with
  | loop visited behind =>
    have apart := sorted.apart
    exact (List.pairwise_cons.mp apart).1 _ List.mem_cons_self late behind early visited
  | heir heir among visited behind =>
    have apart := sorted.apart
    rw [written_heir heir] at apart
    exact (List.pairwise_cons.mp (List.pairwise_cons.mp apart).2).1 _ among late behind early visited
  | inside among swapped ih => exact ih (sorted.below among)

/-- Calls are visited in the order of the text, but for those that are swapped. -/
theorem Sorted.sites (sorted : n.Sorted) : n.sites.Pairwise fun early late => early.lo < late.lo ∨ Swapped early late n := by
  induction n using induction with
  | mk kind lo hi children ih =>
    have own : ∀ site ∈ (if isSite (mk kind lo hi children) then [mk kind lo hi children] else []),
        ∀ late ∈ children.flatMap Node.sites, site.lo < late.lo := by
      have first := sorted
      unfold Sorted at first
      rw [textual_mk, List.pairwise_append] at first
      intro site here late behind
      obtain ⟨child, among, inside⟩ := List.mem_flatMap.mp behind
      exact first.2.2 site here late (List.mem_flatMap.mpr
        ⟨child, (written_perm kind children).mem_iff.mpr among, mem_textual.mpr inside⟩)
    have apart : children.Pairwise fun one other => ∀ early ∈ one.sites, ∀ late ∈ other.sites,
        early.lo < late.lo ∨ Swapped early late (mk kind lo hi children) := by
      have apart := sorted.apart
      rcases written_cases kind children with same | ⟨test, body, rfl, rfl⟩ | ⟨name, members, base, heir, rfl⟩
      · rw [same] at apart
        exact apart.imp fun before early first late second => .inl (before early first late second)
      · refine List.pairwise_pair.mpr fun early first late second => .inr (.loop first second)
      · rw [written_heir heir] at apart
        obtain ⟨named, rest⟩ := List.pairwise_cons.mp apart
        obtain ⟨_, members'⟩ := List.pairwise_cons.mp rest
        refine List.pairwise_cons.mpr ⟨fun other among early first late second => .inl ?_, ?_⟩
        · exact named other (by simpa [or_comm] using among) early first late second
        · rw [List.pairwise_append]
          refine ⟨members'.imp fun before early first late second => .inl (before early first late second),
            List.pairwise_singleton _ _, fun member among other last early first late second => .inr ?_⟩
          rw [List.mem_singleton.mp last] at second
          exact .heir heir among first second
    rw [sites_mk, List.pairwise_append, List.pairwise_flatMap]
    refine ⟨?_, ⟨fun child among => ?_, apart⟩, fun site here late behind => .inl (own site here late behind)⟩
    · split
      · exact List.pairwise_singleton _ _
      · exact .nil
    · exact (ih child among (sorted.below among)).imp fun either => either.imp id (.inside among)

theorem sites_sublist (among : child ∈ children) : child.sites.Sublist (mk kind lo hi children).sites := by
  rw [sites_mk]
  obtain ⟨front, back, rfl⟩ := List.append_of_mem among
  rw [List.flatMap_append, List.flatMap_cons]
  exact ((List.sublist_append_left _ _).trans (List.sublist_append_right _ _)).trans (List.sublist_append_right _ _)

/-- A call that is swapped with another one is visited before it. -/
theorem Swapped.sublist (swapped : Swapped early late n) : [early, late].Sublist n.sites := by
  induction swapped with
  | loop visited behind =>
    rw [sites_mk, List.flatMap_cons, List.flatMap_singleton]
    exact ((List.singleton_sublist.mpr visited).append (List.singleton_sublist.mpr behind)).trans
      (List.sublist_append_right _ _)
  | @heir kind lo hi name member base members heir among visited behind =>
    have members : [early].Sublist (members.flatMap Node.sites) :=
      List.singleton_sublist.mpr (List.mem_flatMap.mpr ⟨member, among, visited⟩)
    rw [sites_mk, List.flatMap_cons, List.flatMap_append, List.flatMap_singleton]
    exact ((members.append (List.singleton_sublist.mpr behind)).trans (List.sublist_append_right _ _)).trans
      (List.sublist_append_right _ _)
  | inside among swapped ih => exact ih.trans (sites_sublist among)

/-- A call stands in front of those that are visited after it, but for those that it is swapped with. -/
theorem Sorted.lt_or_swapped {before after : List Node} (sorted : n.Sorted) (split : n.sites = before ++ early :: after)
    (behind : late ∈ after) : early.lo < late.lo ∨ Swapped early late n := by
  have visits := sorted.sites
  rw [split, List.pairwise_append] at visits
  exact (List.pairwise_cons.mp visits.2.1).1 late behind

/-- The calls are visited in the order of the text exactly if none of them are swapped. -/
theorem Sorted.sites_iff (sorted : n.Sorted) :
    (n.sites.Pairwise fun one other => one.lo < other.lo) ↔ ¬ ∃ early late, Swapped early late n := by
  constructor
  · rintro ordered ⟨early, late, swapped⟩
    have before := List.pairwise_pair.mp (ordered.sublist swapped.sublist)
    exact absurd before (Nat.lt_asymm (swapped.lt sorted))
  · intro none
    exact sorted.sites.imp fun either => either.resolve_right fun swapped => none ⟨_, _, swapped⟩

end Bundler.Script.Node
