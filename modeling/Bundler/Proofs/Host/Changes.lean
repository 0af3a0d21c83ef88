import Bundler.Proofs.Host.FileTree

/-!
What stands where after a change of a tree.
-/

namespace Bundler.FileTree

variable {tree : FileTree} {place other source target : Place} {item : Item}

/-- Whether everything that is there stands in a directory. -/
def Grounded (tree : FileTree) : Prop :=
  ∀ place name, tree.at? (place ++ [name]) ≠ none → tree.at? place = some .directory

theorem at?_of_ne (below : place ≠ []) : tree.at? place = (tree.entries.find? (·.1 = place)).map (·.2) := if_neg below

theorem at?_ne_none (member : (place, item) ∈ tree.entries) : tree.at? place ≠ none := by
  by_cases top : place = []
  · simp [top, at?]
  · rw [at?_of_ne top, ne_eq, Option.map_eq_none_iff, List.find?_eq_none]
    exact fun none => none _ member (by simp)

@[simp] theorem at?_root : tree.at? [] = some .directory := rfl

theorem at?_put (below : place ≠ []) : (tree.put place item).at? other =
    if other = place then some item else tree.at? other := by
  by_cases top : other = []
  · subst top
    rw [if_neg (Ne.symm below)]
    rfl
  · rw [at?_of_ne top, at?_of_ne top, put, List.find?_cons]
    by_cases here : other = place
    · simp [here]
    · have apart : (decide (place = other)) = false := by simpa using Ne.symm here
      simp only [apart, if_neg here, List.find?_filter]
      congr 2
      funext entry
      by_cases same : entry.1 = other <;> simp [same, here]

theorem isPrefixOf_eq_false (apart : ¬ place <+: other) : place.isPrefixOf other = false := by
  rwa [← Bool.not_eq_true, List.isPrefixOf_iff_prefix]

theorem at?_drop (below : place ≠ []) : (tree.drop place).at? other =
    if place <+: other then none else tree.at? other := by
  by_cases top : other = []
  · subst top
    rw [if_neg (by simpa using below)]
    rfl
  · rw [at?_of_ne top, at?_of_ne top, drop, List.find?_filter]
    by_cases above : place <+: other
    · rw [if_pos above, Option.map_eq_none_iff, List.find?_eq_none]
      intro entry _
      by_cases same : entry.1 = other <;> simp [same, above]
    · rw [if_neg above]
      congr 2
      funext entry
      by_cases same : entry.1 = other <;> simp [same, isPrefixOf_eq_false, above]

/-- Where a place that is not below the target of a move comes to lie. -/
theorem movedPlace_eq_iff (kept : ¬ target <+: place) : movedPlace source target place = other ↔
    if target <+: other then place = source ++ other.drop target.length else place = other ∧ ¬ source <+: place := by
  unfold movedPlace
  by_cases moves : source <+: place
  · obtain ⟨rest, rfl⟩ := moves
    rw [if_pos (by simp), List.drop_left]
    split
    · next below =>
      obtain ⟨rest', rfl⟩ := below
      simp
    · next apart =>
      simp only [List.prefix_append, not_true_eq_false, and_false, iff_false]
      rintro rfl
      exact apart (List.prefix_append ..)
  · rw [if_neg (by simpa using moves)]
    split
    · next below =>
      constructor
      · rintro rfl
        exact absurd below kept
      · rintro rfl
        exact absurd (List.prefix_append ..) moves
    · simp [moves]

theorem grounded_of_entries (entries : ∀ entry ∈ tree.entries, tree.at? entry.1.dropLast = some .directory) :
    tree.Grounded := by
  intro place name standing
  obtain ⟨item, found⟩ := Option.ne_none_iff_exists'.mp standing
  have above := entries _ (mem_of_at? found (by simp))
  rwa [List.dropLast_concat] at above

theorem Grounded.below (grounded : tree.Grounded) (free : tree.at? place = none) (rest : List String) :
    tree.at? (place ++ rest) = none := by
  induction rest generalizing place with
  | nil => rwa [List.append_nil]
  | cons name rest ih =>
    have next : tree.at? (place ++ [name]) = none := by
      apply Decidable.byContradiction
      intro some
      rw [grounded place name some] at free
      cases free
    simpa using ih next

/-- A move takes what is at one place and below it to another one. -/
theorem at?_move (below : source ≠ []) (apart : ¬ source <+: target) (apart' : ¬ target <+: source) :
    (tree.move source target).at? other =
      if target <+: other then tree.at? (source ++ other.drop target.length)
      else if source <+: other then none
      else tree.at? other := by
  have some : target ≠ [] := by
    rintro rfl
    exact apart' List.nil_prefix
  by_cases top : other = []
  · subst top
    rw [if_neg (by simpa using some), if_neg (by simpa using below)]
    rfl
  have meets (entry : Place × Item) :
      ((!target.isPrefixOf entry.1) = true ∧ decide (movedPlace source target entry.1 = other) = true) ↔
        ¬ target <+: entry.1 ∧ if target <+: other then entry.1 = source ++ other.drop target.length
          else entry.1 = other ∧ ¬ source <+: entry.1 := by
    by_cases kept : target <+: entry.1
    · rw [List.isPrefixOf_iff_prefix.mpr kept]
      simp [kept]
    · simp [isPrefixOf_eq_false kept, kept, movedPlace_eq_iff kept]
  rw [at?_of_ne top, move, drop, List.find?_map, List.find?_filter, Option.map_map]
  simp only [Function.comp_def, meets]
  split
  · next moved =>
    obtain ⟨rest, rfl⟩ := moved
    have unmoved : ¬ target <+: source ++ rest := by
      intro both
      rcases List.prefix_or_prefix_of_prefix both (List.prefix_append source rest) with into | outOf
      · exact apart' into
      · exact apart outOf
    rw [List.drop_left, at?_of_ne (List.append_ne_nil_of_left_ne_nil below _)]
    congr 2
    funext entry
    by_cases same : entry.1 = source ++ rest <;> simp [same, unmoved]
  · next outside =>
    split
    · next left =>
      rw [Option.map_eq_none_iff, List.find?_eq_none]
      intro entry _
      by_cases same : entry.1 = other <;> simp [same, left]
    · next stays =>
      rw [at?_of_ne top]
      congr 2
      funext entry
      by_cases same : entry.1 = other <;> simp [same, outside, stays]

end Bundler.FileTree
