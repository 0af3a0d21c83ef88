import Bundler.Proofs.Path.Basic

/-!
Where paths lead from a directory by their text alone. To normalize a path does not change that, and normalized paths
that climb equally far are ordered as the directories that they lead to.
-/

namespace Bundler.Path

variable {here parts names : List String} {bounded : Bool} {ups : Nat} {path base : Path}

/-- One segment further, from a directory that is given by its names. -/
def onward (here : List String) (segment : String) : List String :=
  if segment = ".." then here.dropLast else here ++ [segment]

/-- The directory that a path leads to from another one. -/
def leadFrom (here : List String) (path : Path) : List String :=
  path.parts.foldl onward (if path.isAbsolute then [] else here)

/-- How many directories up a path starts when it is normalized. -/
def climb (path : Path) : Nat := (path.normalize.parts.takeWhile (· = "..")).length

theorem foldl_onward_push (clamped : bounded = true → here = []) (stack : List String) (segment : String) :
    (push bounded stack segment).reverse.foldl onward here = onward (stack.reverse.foldl onward here) segment := by
  by_cases up : segment = ".."
  · subst up
    match stack, bounded with
    | [], true => simp [push, onward, clamped rfl]
    | [], false => simp [push, onward]
    | top :: rest, _ => by_cases climbs : top = ".." <;> simp [push, onward, climbs]
  · simp [push, onward, up]

/-- What is left of segments when they are collapsed leads where they lead. Where a `..` gets lost at the bottom, that is
the root. -/
theorem foldl_onward_collapse (clamped : bounded = true → here = []) (parts : List String) :
    (collapse bounded parts).foldl onward here = parts.foldl onward here := by
  have onwards (stack : List String) : (parts.foldl (push bounded) stack).reverse.foldl onward here =
      parts.foldl onward (stack.reverse.foldl onward here) := by
    induction parts generalizing stack with
    | nil => rfl
    | cons segment rest ih => rw [List.foldl_cons, List.foldl_cons, ih, foldl_onward_push clamped]
  exact onwards []

theorem foldl_onward_names (down : ".." ∉ names) : names.foldl onward here = here ++ names := by
  induction names generalizing here with
  | nil => simp
  | cons name rest ih =>
    simp only [List.mem_cons, not_or] at down
    rw [List.foldl_cons, onward, if_neg (Ne.symm down.1), ih down.2, List.append_assoc, List.singleton_append]

theorem normalize_parts (path : Path) :
    path.normalize.isAbsolute = path.isAbsolute ∧ path.normalize.parts = collapse path.isAbsolute path.parts :=
  ofParts_parts (fun _ member => isSegment_of_mem (mem_of_mem_collapse member)) _

/-- A path that has been normalized stays as it is. -/
theorem normalize_normalize (path : Path) : path.normalize.normalize = path.normalize := by
  obtain ⟨absolute, parts⟩ := normalize_parts path
  rw [normalize, absolute, parts, collapse_collapse, normalize]

theorem leadFrom_normalize (here : List String) (path : Path) : leadFrom here path.normalize = leadFrom here path := by
  obtain ⟨absolute, parts⟩ := normalize_parts path
  rw [leadFrom, leadFrom, absolute, parts]
  exact foldl_onward_collapse (fun bounded => by rw [if_pos bounded]) _

/-- A normalized path climbs first, unless it is absolute, and then leads down. -/
theorem normalize_form (path : Path) : ∃ names, (∀ name ∈ names, IsName name) ∧
    path.normalize.parts = List.replicate path.climb ".." ++ names ∧ (path.isAbsolute = true → path.climb = 0) := by
  obtain ⟨ups, names, proper, form, level⟩ : ∃ ups names, (∀ name ∈ names, IsName name) ∧
      path.normalize.parts = List.replicate ups ".." ++ names ∧ (path.isAbsolute = true → ups = 0) := by
    rw [(normalize_parts path).2]
    cases absolute : path.isAbsolute with
    | true => exact ⟨0, _, isName_collapse path, by simp, fun _ => rfl⟩
    | false =>
      obtain ⟨ups, names, proper, form⟩ := collapse_climbs fun _ member => isSegment_of_mem member
      exact ⟨ups, names, proper, form, nofun⟩
  have climbs : path.climb = ups := by
    rw [climb, form, takeWhile_climb ups fun member => (proper ".." member).2 rfl, List.length_replicate]
  exact ⟨names, proper, climbs ▸ form, fun absolute => climbs.trans (level absolute)⟩

theorem leadFrom_form (proper : ∀ name ∈ names, IsName name)
    (form : path.normalize.parts = List.replicate ups ".." ++ names) : leadFrom here path =
      (List.replicate ups "..").foldl onward (if path.isAbsolute then [] else here) ++ names := by
  rw [← leadFrom_normalize, leadFrom, form, (normalize_parts path).1, List.foldl_append]
  exact foldl_onward_names fun member => (proper ".." member).2 rfl

/-- A normalized path starts with another one exactly if it leads into the directory of that, where both are absolute, or
both are relative and climb equally far. -/
theorem startsWith_iff_leads (alike : path.isAbsolute = base.isAbsolute) (level : path.climb = base.climb)
    (here : List String) :
    path.normalize.startsWith base.normalize = true ↔ leadFrom here base <+: leadFrom here path := by
  obtain ⟨names, proper, form, _⟩ := normalize_form path
  obtain ⟨names', proper', form', _⟩ := normalize_form base
  rw [leadFrom_form proper form, leadFrom_form proper' form', alike, level, List.prefix_append_right_inj]
  have both : path.normalize.isAbsolute = base.normalize.isAbsolute := by
    rw [(normalize_parts path).1, (normalize_parts base).1, alike]
  rw [startsWith, both, form, form', level]
  cases base.normalize.isAbsolute <;> simp [List.isPrefixOf_iff_prefix, List.prefix_append_right_inj]

end Bundler.Path
