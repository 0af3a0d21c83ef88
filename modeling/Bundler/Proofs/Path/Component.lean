import Bundler.Proofs.Path.Lead

/-!
The components of a path, and what each of them does to the directory that one is in. The normal form of a path leads
where the path leads, first up and then down, and absolute paths have one normal form exactly if they lead to one place.
-/

namespace Bundler.Path

open Text

variable {path : Path} {parts : List String} {piece : List Char}

/-- One step that the text of a path tells. -/
inductive Component where
  | root
  /-- The directory that one is in already. -/
  | dot
  | up
  | down (name : String)
  deriving DecidableEq, Repr

namespace Component

/-- What stands between two slashes. Nothing at all is no step. -/
def ofPiece? (piece : List Char) : Option Component :=
  if piece = [] then none
  else if piece = ['.'] then some dot
  else if piece = ['.', '.'] then some up
  else some (down (String.ofList piece))

/-- The directory behind a step from another one. Both are given by their names from the root of the file system. -/
def act (here : List String) : Component → List String
  | root => []
  | dot => here
  | up => here.dropLast
  | down name => here ++ [name]

/-- The step that a segment is. -/
def ofSegment (segment : String) : Component := if segment = ".." then up else down segment

theorem act_ofSegment (here : List String) (segment : String) : act here (ofSegment segment) = onward here segment := by
  by_cases climbs : segment = ".." <;> simp [ofSegment, onward, act, climbs]

theorem ofPiece?_eq (some : piece ≠ []) (apart : piece ≠ ['.']) :
    ofPiece? piece = .some (ofSegment (String.ofList piece)) := by
  have climbs : String.ofList piece = ".." ↔ piece = ['.', '.'] := by
    rw [← String.toList_inj]
    simp
  by_cases up : piece = ['.', '.'] <;> simp [ofPiece?, ofSegment, some, apart, climbs, up]

end Component

/-- The components of a path, from the left. Every `.` is one, wherever it stands. -/
def components (path : Path) : List Component :=
  (if path.isAbsolute then [.root] else []) ++ (pieces '/' path.text.toList).filterMap Component.ofPiece?

/-- The directory that a path leads to from another one. -/
def follow (here : List String) (path : Path) : List String := path.components.foldl Component.act here

/-- Pieces that are no segments lead nowhere else. -/
theorem foldl_act_pieces (cut : List (List Char)) (here : List String) :
    (cut.filterMap Component.ofPiece?).foldl Component.act here =
      ((cut.filter fun piece => piece ≠ [] ∧ piece ≠ ['.']).map String.ofList).foldl onward here := by
  induction cut generalizing here with
  | nil => rfl
  | cons piece rest ih =>
    by_cases none : piece = []
    · simpa [none, Component.ofPiece?] using ih here
    by_cases dot : piece = ['.']
    · simpa [dot, Component.ofPiece?, Component.act] using ih here
    · simpa [Component.ofPiece?_eq none dot, none, dot, Component.act_ofSegment] using ih _

theorem follow_eq_leadFrom (here : List String) (path : Path) : follow here path = leadFrom here path := by
  rw [follow, components, List.foldl_append, foldl_act_pieces, leadFrom, parts, segments]
  cases path.isAbsolute <;> rfl

theorem filterMap_ofPiece? (proper : ∀ segment ∈ parts, IsSegment segment) :
    (parts.map String.toList).filterMap Component.ofPiece? = parts.map .ofSegment := by
  induction parts with
  | nil => rfl
  | cons segment rest ih =>
    obtain ⟨some, apart, _⟩ := proper segment (List.mem_cons_self ..)
    have some' : segment.toList ≠ [] := by simpa using some
    have kept := Component.ofPiece?_eq some' fun same => apart (String.toList_inj.mp same)
    rw [List.map_cons, List.filterMap_cons_some kept, ih fun other member => proper other (List.mem_cons_of_mem _ member),
      String.ofList_toList, List.map_cons]

theorem components_ofParts (absolute : Bool) (proper : ∀ segment ∈ parts, IsSegment segment) :
    (ofParts absolute parts).components = (if absolute then [.root] else []) ++ parts.map .ofSegment := by
  have said : (pieces '/' (slashed parts).toList).filterMap Component.ofPiece? = parts.map .ofSegment := by
    by_cases some : parts = []
    · subst some
      decide +kernel
    · rw [pieces_slashed some proper, filterMap_ofPiece? proper]
  rw [components, (ofParts_parts proper absolute).1]
  cases absolute with
  | false => simpa [ofParts] using said
  | true =>
    have cut : (ofParts true parts).text.toList = [] ++ '/' :: (slashed parts).toList := by simp [ofParts]
    rw [cut, pieces_append, List.filterMap_append, said]
    rfl

theorem follow_normalize (here : List String) (path : Path) : follow here path.normalize = follow here path := by
  rw [follow_eq_leadFrom, follow_eq_leadFrom, leadFrom_normalize]

/-- The normal form of a path climbs, unless it starts at the root of the file system, and then leads down. -/
theorem components_normalize (path : Path) : ∃ (climb : Nat) (names : List String), path.normalize.components =
    (if path.isAbsolute then [.root] else List.replicate climb .up) ++ names.map .down := by
  obtain ⟨names, proper, form, level⟩ := normalize_form path
  have segmented : ∀ segment ∈ collapse path.isAbsolute path.parts, IsSegment segment := fun _ member =>
    isSegment_of_mem (mem_of_mem_collapse member)
  have down : names.map Component.ofSegment = names.map .down := List.map_congr_left fun name member => by
    rw [Component.ofSegment, if_neg (proper name member).2]
  refine ⟨path.climb, names, ?_⟩
  rw [normalize, components_ofParts _ segmented, ← (normalize_parts path).2, form, List.map_append, down,
    List.map_replicate]
  cases absolute : path.isAbsolute with
  | true => simp [level absolute]
  | false => simp [Component.ofSegment]

/-- An absolute path says in its normal form where it leads, name by name. -/
theorem normalize_eq_follow (absolute : path.isAbsolute = true) (here : List String) :
    path.normalize = ofParts true (follow here path) := by
  have place : leadFrom here path = collapse true path.parts := by
    have settled : (collapse true path.parts).foldl onward [] = path.parts.foldl onward [] :=
      foldl_onward_collapse (fun _ => rfl) _
    rw [leadFrom, absolute, if_pos rfl, ← settled, foldl_onward_names (up_not_mem_collapse _), List.nil_append]
  rw [follow_eq_leadFrom, place, normalize, absolute]

/-- Normalizing keeps where a path leads, and leaves a path that first climbs, unless it starts at the root of the file
system, and then leads down. It does nothing more the second time. Absolute paths come to the same path exactly if they
lead to the same place. -/
theorem normalize_keeps_place (path : Path) :
    (∀ here, follow here path.normalize = follow here path) ∧
    (∃ (climb : Nat) (names : List String), path.normalize.components =
      (if path.isAbsolute then [.root] else List.replicate climb .up) ++ names.map .down) ∧
    path.normalize.isAbsolute = path.isAbsolute ∧ path.normalize.normalize = path.normalize ∧
    ∀ other : Path, path.isAbsolute = true → other.isAbsolute = true → ∀ here,
      path.normalize = other.normalize ↔ follow here path = follow here other := by
  refine ⟨fun here => follow_normalize here path, components_normalize path, (normalize_parts path).1,
    normalize_normalize path, fun other absolute absolute' here => ⟨fun same => ?_, fun same => ?_⟩⟩
  · rw [← follow_normalize here path, same, follow_normalize]
  · rw [normalize_eq_follow absolute here, normalize_eq_follow absolute' here, same]

/-- Two absolute paths that climb beyond the root of the file system on different ways. -/
theorem normalize_keeps_place_clamped :
    (Path.mk "/a/../../.").isAbsolute = true ∧ (Path.mk "//..").isAbsolute = true ∧
      ∀ here, (Path.mk "/a/../../.").normalize = (Path.mk "//..").normalize ↔
        follow here ⟨"/a/../../."⟩ = follow here ⟨"//.."⟩ := by
  have absolute : (Path.mk "/a/../../.").isAbsolute = true := by decide +kernel
  have absolute' : (Path.mk "//..").isAbsolute = true := by decide +kernel
  obtain ⟨_, _, _, _, same⟩ := normalize_keeps_place ⟨"/a/../../."⟩
  exact ⟨absolute, absolute', same ⟨"//.."⟩ absolute absolute'⟩

end Bundler.Path
