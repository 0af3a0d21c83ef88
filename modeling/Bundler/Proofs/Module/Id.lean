import Bundler.Module.Id
import Bundler.Proofs.Path.Basic

/-!
Ids in their canonical form: they climb so far above the project root, and lead down from there by
names. Every id of a build has this form, and its file is told by both parts.
-/

namespace Bundler.ModuleId

open Bundler.Path Bundler.Text

variable {ups : Nat} {names : List String} {id : ModuleId}

/-- The id that climbs so far above the project root, and leads down from there. -/
def climbing (ups : Nat) (names : List String) : ModuleId :=
  ⟨"./" ++ slashed (List.replicate ups ".." ++ names)⟩

/-- How far an id climbs above the project root. -/
def climb (id : ModuleId) : Nat := ((segments id.text).takeWhile (· = "..")).length

/-- The id that climbs further by `more`, and leads down as before. -/
def raise (more : Nat) (id : ModuleId) : ModuleId :=
  ⟨"./" ++ slashed (List.replicate more ".." ++ segments id.text)⟩

def Canonical (id : ModuleId) : Prop := ∃ ups names, (∀ name ∈ names, IsName name) ∧ id = climbing ups names

theorem isSegment_climbing (ups : Nat) (proper : ∀ name ∈ names, IsName name) :
    ∀ segment ∈ List.replicate ups ".." ++ names, IsSegment segment := by
  intro segment member
  rcases List.mem_append.mp member with up | down
  · rw [List.eq_of_mem_replicate up]
    exact isSegment_up
  · exact (proper segment down).1

theorem up_not_mem (proper : ∀ name ∈ names, IsName name) : ".." ∉ names :=
  fun member => (proper ".." member).2 rfl

/-- Ahead of the segments of an id stands the piece for the project root. -/
theorem pieces_climbing (ups : Nat) (names : List String) : pieces '/' (climbing ups names).text.toList =
    ['.'] :: pieces '/' (slashed (List.replicate ups ".." ++ names)).toList := by
  have cut : (climbing ups names).text.toList = ['.'] ++ '/' :: (slashed (List.replicate ups ".." ++ names)).toList := by
    simp [climbing]
  rw [cut, pieces_append]
  rfl

/-- The piece for the project root is no segment. -/
theorem segments_dotted {parts : List String} (proper : ∀ segment ∈ parts, IsSegment segment) :
    segments ("./" ++ slashed parts) = parts := by
  have cut : "./" ++ slashed parts = "." ++ "/" ++ slashed parts := rfl
  rw [cut, segments_append, segments_dot, List.nil_append, segments_slashed proper]

theorem segments_climbing (proper : ∀ name ∈ names, IsName name) :
    segments (climbing ups names).text = List.replicate ups ".." ++ names :=
  segments_dotted (isSegment_climbing ups proper)

theorem climb_climbing (proper : ∀ name ∈ names, IsName name) : (climbing ups names).climb = ups := by
  rw [ModuleId.climb, segments_climbing proper, takeWhile_climb ups (up_not_mem proper), List.length_replicate]

theorem raise_climbing (more : Nat) (proper : ∀ name ∈ names, IsName name) :
    (climbing ups names).raise more = climbing (more + ups) names := by
  rw [raise, segments_climbing proper, climbing, ← List.append_assoc, List.replicate_append_replicate]

theorem segments_normalize (text : String) : segments (normalize text).text = collapse false (segments text) :=
  segments_dotted fun _ member => isSegment_of_mem (mem_of_mem_collapse member)

/-- Segments that climb first and then lead down are left as they are. -/
theorem collapse_climbing (ups : Nat) (proper : ∀ name ∈ names, IsName name) :
    collapse false (List.replicate ups ".." ++ names) = List.replicate ups ".." ++ names := by
  rw [collapse_climb, collapse_names false (up_not_mem proper)]

theorem Canonical.normalize_text (canonical : id.Canonical) : normalize id.text = id := by
  obtain ⟨ups, names, proper, rfl⟩ := canonical
  rw [normalize, segments_climbing proper, collapse_climbing ups proper, climbing]

theorem canonical_normalize (text : String) : (normalize text).Canonical := by
  have segmented : ∀ segment ∈ segments text, IsSegment segment := fun _ member => isSegment_of_mem member
  obtain ⟨ups, names, proper, settled⟩ := collapse_climbs segmented
  exact ⟨ups, names, proper, by rw [normalize, settled, climbing]⟩

theorem canonical_resolve (specifier parentDir extension : String) : (resolve specifier parentDir extension).Canonical :=
  canonical_normalize _

theorem canonical_fromPath {path root : Path} (named : fromPath path root = .ok id) : id.Canonical := by
  unfold fromPath at named
  cases below : path.normalize.below? root.normalize with
  | none => simp [below] at named
  | some parts =>
    simp only [below, Except.ok.injEq] at named
    exact named ▸ canonical_normalize _

theorem relative_climbing (ups : Nat) (names : List String) :
    (climbing ups names).relative = slashed (List.replicate ups ".." ++ names) := by
  simp [relative, climbing]

theorem parentDir_of_pieces {above : List (List Char)} {last : List Char} (some : above ≠ [])
    (cut : pieces '/' id.text.toList = above ++ [last]) : id.parentDir = String.ofList (joined '/' above) := by
  have backwards : (pieces '/' id.text.toList).reverse = last :: above.reverse := by rw [cut]; simp
  cases turned : above.reverse with
  | nil => exact absurd (List.reverse_eq_nil_iff.mp turned) some
  | cons dir rest =>
    have forwards : (dir :: rest).reverse = above := by rw [← turned, List.reverse_reverse]
    rw [parentDir, backwards, turned]
    simp only [forwards]

/-- The directory of a module is written as its id is, without the last segment. -/
theorem parentDir_climbing (proper : ∀ name ∈ names, IsName name) : (climbing ups names).parentDir =
    if (List.replicate ups ".." ++ names).dropLast = [] then "."
    else "./" ++ slashed (List.replicate ups ".." ++ names).dropLast := by
  have proper' := isSegment_climbing ups proper
  have cut := pieces_climbing ups names
  generalize List.replicate ups ".." ++ names = parts at proper' cut ⊢
  rcases List.eq_nil_or_concat parts with rfl | ⟨above, last, rfl⟩
  · have only : pieces '/' (climbing ups names).text.toList = [['.']] ++ [[]] := by rw [cut]; rfl
    rw [parentDir_of_pieces (by simp) only]
    rfl
  · rw [List.concat_eq_append] at proper' cut ⊢
    rw [pieces_slashed (by simp) proper', List.map_append, ← List.cons_append] at cut
    rw [parentDir_of_pieces (by simp) cut, List.dropLast_concat]
    by_cases none : above = []
    · subst none
      rfl
    · rw [if_neg none, joined_cons '/' ['.'] (by simpa using none), ← toList_slashed, ← String.toList_inj]
      simp

/-- The directory of a module has the segments of its id without the last one. -/
theorem segments_parentDir (proper : ∀ name ∈ names, IsName name) :
    segments (climbing ups names).parentDir = (List.replicate ups ".." ++ names).dropLast := by
  have inner : ∀ segment ∈ (List.replicate ups ".." ++ names).dropLast, IsSegment segment := fun segment member =>
    isSegment_climbing ups proper segment (List.dropLast_subset _ member)
  rw [parentDir_climbing proper]
  split
  · next none =>
    rw [none]
    exact segments_dot
  · exact segments_dotted inner

theorem resolve_eq (specifier parentDir extension : String) : resolve specifier parentDir extension =
    ⟨"./" ++ slashed (collapse false (segments parentDir ++ segments (complete specifier extension)))⟩ := by
  rw [resolve, normalize, segments_append]

/-- What a specifier means in a module climbs at least as far as the module, and leads down by names on
which that height has no say. -/
theorem resolve_climbing (specifier extension : String) (proper : ∀ name ∈ names, IsName name) (some : names ≠ []) :
    ∃ more below, (∀ name ∈ below, IsName name) ∧
      ∀ ups, resolve specifier (climbing ups names).parentDir extension = climbing (ups + more) below := by
  have inner : ∀ segment ∈ names.dropLast ++ segments (complete specifier extension), IsSegment segment := by
    intro segment member
    rcases List.mem_append.mp member with above | said
    · exact (proper segment (List.dropLast_subset names above)).1
    · exact isSegment_of_mem said
  obtain ⟨more, below, proper', settled⟩ := collapse_climbs inner
  refine ⟨more, below, proper', fun ups => ?_⟩
  rw [resolve_eq, segments_parentDir proper, List.dropLast_append_of_ne_nil some, List.append_assoc, collapse_climb,
    settled, climbing, ← List.append_assoc, List.replicate_append_replicate]

/-- The file of an id lies as far above the project root as the id climbs, and below that by its names. -/
theorem toPath_climbing {root : Path} (absolute : root.isAbsolute = true) (proper : ∀ name ∈ names, IsName name) :
    (climbing ups names).toPath root = ofParts true ((collapse true root.parts).take (root.depth - ups) ++ names) := by
  have proper' := isSegment_climbing ups proper
  rw [toPath, relative_climbing, normalize_join absolute (slashed_head proper'), segments_slashed proper',
    collapse_below _ _ (up_not_mem proper), depth, absolute]

theorem isName_toPath {root : Path} (ups : Nat) (proper : ∀ name ∈ names, IsName name) :
    ∀ name ∈ (collapse true root.parts).take (root.depth - ups) ++ names, IsName name := by
  intro name member
  rcases List.mem_append.mp member with above | below
  · exact isName_collapse root name (List.mem_of_mem_take above)
  · exact proper name below

/-- The file of an id lies where names lead down from the root of the file system. -/
theorem Canonical.toPath_eq {root : Path} (canonical : id.Canonical) (absolute : root.isAbsolute = true) :
    ∃ parts, (∀ name ∈ parts, IsName name) ∧ id.toPath root = ofParts true parts := by
  obtain ⟨ups, names, proper, rfl⟩ := canonical
  exact ⟨_, isName_toPath ups proper, toPath_climbing absolute proper⟩

/-- Ids that climb equally far are told apart by their files. -/
theorem Canonical.eq_of_toPath {root : Path} {other : ModuleId} (canonical : id.Canonical)
    (canonical' : other.Canonical) (absolute : root.isAbsolute = true) (level : id.climb = other.climb)
    (same : id.toPath root = other.toPath root) : id = other := by
  obtain ⟨ups, names, proper, rfl⟩ := canonical
  obtain ⟨ups', names', proper', rfl⟩ := canonical'
  rw [climb_climbing proper, climb_climbing proper'] at level
  subst level
  rw [toPath_climbing absolute proper, toPath_climbing absolute proper'] at same
  have parts := ofParts_injective (fun name member => (isName_toPath ups proper name member).1)
    (fun name member => (isName_toPath ups proper' name member).1) same
  rw [List.append_cancel_left parts]

/-- An id that climbs to the root of the file system, or beyond, names its file from there. -/
theorem toPath_high {root : Path} (absolute : root.isAbsolute = true) (proper : ∀ name ∈ names, IsName name)
    (high : root.depth ≤ ups) : (climbing ups names).toPath root = ofParts true names := by
  rw [toPath_climbing absolute proper, Nat.sub_eq_zero_of_le high, List.take_zero, List.nil_append]

/-- Ids of one file that climb beyond the root of the file system are each other, raised. -/
theorem Canonical.eq_raise {root : Path} {other : ModuleId} (canonical : id.Canonical) (canonical' : other.Canonical)
    (absolute : root.isAbsolute = true) (high : root.depth ≤ id.climb) (level : id.climb ≤ other.climb)
    (same : id.toPath root = other.toPath root) : other = id.raise (other.climb - id.climb) := by
  obtain ⟨ups, names, proper, rfl⟩ := canonical
  obtain ⟨ups', names', proper', rfl⟩ := canonical'
  rw [climb_climbing proper] at high
  rw [climb_climbing proper, climb_climbing proper'] at level ⊢
  rw [toPath_high absolute proper high, toPath_high absolute proper' (Nat.le_trans high level)] at same
  have names_eq := ofParts_injective (fun name member => (proper name member).1)
    (fun name member => (proper' name member).1) same
  rw [raise_climbing _ proper, Nat.sub_add_cancel level, names_eq]

theorem climb_raise (canonical : id.Canonical) (more : Nat) :
    (id.raise more).climb = more + id.climb ∧ (id.raise more).Canonical := by
  obtain ⟨ups, names, proper, rfl⟩ := canonical
  rw [raise_climbing more proper, climb_climbing proper, climb_climbing proper]
  exact ⟨rfl, more + ups, names, proper, rfl⟩

end Bundler.ModuleId
