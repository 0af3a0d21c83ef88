import Bundler.Path.Basic
import Bundler.Proofs.Path.Segments

/-!
What paths become: where a relative path leads from an absolute one, and how deep a directory lies.
-/

namespace Bundler.Path

variable {root : Path} {parts : List String} {name : String}

/-- How many directories lead to the place of a path, as far as its text tells. -/
def depth (path : Path) : Nat := (collapse path.isAbsolute path.parts).length

theorem isAbsolute_append {text : String} (absolute : (Path.mk text).isAbsolute = true) (other : String) :
    (Path.mk (text ++ other)).isAbsolute = true := by
  simp only [isAbsolute, beq_iff_eq, String.toList_append] at absolute ⊢
  rw [List.head?_append, absolute]
  rfl

/-- A relative path is put behind a slash, which a path that is not empty may already end with. -/
theorem join_cut {other : String} (relative : other.toList.head? ≠ some '/') (some : root.text ≠ "") :
    ∃ before, root.join other = ⟨before ++ "/" ++ other⟩ ∧ (root.text = before ∨ root.text = before ++ "/" ++ "") := by
  obtain ⟨text⟩ := root
  unfold join
  rw [if_neg relative, if_neg some]
  split
  · next last =>
    obtain ⟨before, same⟩ := List.getLast?_eq_some_iff.mp last
    have cut : text = String.ofList before ++ "/" ++ "" := by
      rw [← String.toList_inj]
      simp [same]
    exact ⟨String.ofList before, by rw [cut, String.append_empty], .inr cut⟩
  · exact ⟨text, rfl, .inl rfl⟩

/-- A relative path leads on from the end of another path. -/
theorem join_relative (root : Path) {other : String} (relative : other.toList.head? ≠ some '/') :
    (root.join other).isAbsolute = root.isAbsolute ∧ (root.join other).parts = root.parts ++ segments other := by
  by_cases none : root.text = ""
  · obtain ⟨text⟩ := root
    subst none
    rw [join, if_neg relative, if_pos rfl]
    refine ⟨?_, by simp [parts]⟩
    simp [isAbsolute, relative]
  obtain ⟨before, joined, ends⟩ := join_cut relative none
  rw [joined]
  constructor
  · obtain ⟨c, cs, chars⟩ := List.exists_cons_of_ne_nil (show root.text.toList ≠ [] by simpa using none)
    rcases ends with same | same
    · rw [same] at chars
      simp [isAbsolute, same, chars]
    · simp [isAbsolute, same]
  · rcases ends with same | same
    · simp only [parts, same, segments_append]
    · simp only [parts, same, segments_append, segments_empty, List.append_nil]

/-- A relative path leads on from the end of an absolute one. -/
theorem join_absolute (absolute : root.isAbsolute = true) {other : String} (relative : other.toList.head? ≠ some '/') :
    (root.join other).isAbsolute = true ∧ (root.join other).parts = root.parts ++ segments other :=
  absolute ▸ join_relative root relative

theorem isAbsolute_join (absolute : root.isAbsolute = true) (other : String) : (root.join other).isAbsolute = true := by
  by_cases relative : other.toList.head? = some '/'
  · simp [join, relative, isAbsolute]
  · exact (join_absolute absolute relative).1

theorem normalize_join (absolute : root.isAbsolute = true) {other : String} (relative : other.toList.head? ≠ some '/') :
    (root.join other).normalize = ofParts true (collapse true (root.parts ++ segments other)) := by
  obtain ⟨stays, joined⟩ := join_absolute absolute relative
  rw [normalize, stays, joined]

theorem slashed_head (proper : ∀ segment ∈ parts, IsSegment segment) : (slashed parts).toList.head? ≠ some '/' := by
  intro head
  cases parts with
  | nil => simp [slashed] at head
  | cons first rest =>
    obtain ⟨some, _, apart⟩ := proper first (List.mem_cons_self ..)
    have front : (slashed (first :: rest)).toList.head? = first.toList.head? := by
      rw [toList_slashed, List.map_cons]
      have nonempty : first.toList ≠ [] := by simpa using some
      cases chars : first.toList with
      | nil => exact absurd chars nonempty
      | cons c cs => cases rest <;> simp [Text.joined]
    rw [front] at head
    exact apart (List.mem_of_head? head)

theorem isAbsolute_ofParts (parts : List String) : (ofParts true parts).isAbsolute = true := by
  simp [ofParts, isAbsolute]

theorem isAbsolute_normalize (absolute : root.isAbsolute = true) : root.normalize.isAbsolute = true := by
  rw [normalize, absolute]
  exact isAbsolute_ofParts _

theorem parts_ofParts (proper : ∀ segment ∈ parts, IsSegment segment) : (ofParts true parts).parts = parts := by
  have text : (ofParts true parts).text = "" ++ "/" ++ slashed parts := rfl
  rw [Path.parts, text, segments_append, segments_empty, List.nil_append, segments_slashed proper]

theorem ofParts_parts (proper : ∀ segment ∈ parts, IsSegment segment) (absolute : Bool) :
    (ofParts absolute parts).isAbsolute = absolute ∧ (ofParts absolute parts).parts = parts := by
  cases absolute with
  | true => exact ⟨isAbsolute_ofParts _, parts_ofParts proper⟩
  | false =>
    have text : (ofParts false parts).text = slashed parts := by simp [ofParts]
    have relative := slashed_head proper
    refine ⟨?_, by rw [Path.parts, text, segments_slashed proper]⟩
    rw [isAbsolute, text]
    simpa using relative

theorem normalize_ofParts (proper : ∀ name ∈ parts, IsName name) : (ofParts true parts).normalize = ofParts true parts := by
  have down : ".." ∉ parts := fun member => (proper ".." member).2 rfl
  rw [normalize, isAbsolute_ofParts, parts_ofParts fun name member => (proper name member).1, collapse_names true down]

/-- The segments of an absolute path without what says nothing lead down all the way. -/
theorem isName_collapse (root : Path) : ∀ name ∈ collapse true root.parts, IsName name := fun _ member =>
  ⟨isSegment_of_mem (mem_of_mem_collapse member), fun same => up_not_mem_collapse root.parts (same ▸ member)⟩

theorem ofParts_injective {left right : List String} (proper : ∀ segment ∈ left, IsSegment segment)
    (proper' : ∀ segment ∈ right, IsSegment segment) (same : ofParts true left = ofParts true right) :
    left = right := by
  rw [← parts_ofParts proper, ← parts_ofParts proper', same]

theorem pieces_absolute {path : Path} (absolute : path.isAbsolute = true) :
    (Text.pieces '/' path.text.toList).head? = some [] := by
  simp only [isAbsolute, beq_iff_eq] at absolute
  obtain ⟨rest, text⟩ := List.head?_eq_some_iff.mp absolute
  rw [text]
  simp [Text.pieces]

/-- The path of what has a name is that of its directory and the name. -/
theorem parent?_ofParts (proper : ∀ segment ∈ parts ++ [name], IsSegment segment) (absolute : Bool) :
    (ofParts absolute (parts ++ [name])).parent? = some (ofParts absolute parts) := by
  obtain ⟨same, split⟩ := ofParts_parts proper absolute
  have start : (Text.pieces '/' (ofParts absolute (parts ++ [name])).text.toList).head? ≠ some ['.'] := by
    cases absolute with
    | true => simp [pieces_absolute same]
    | false =>
      have text : (ofParts false (parts ++ [name])).text = slashed (parts ++ [name]) := by simp [ofParts]
      rw [text, pieces_slashed (by simp) proper, List.head?_map]
      obtain ⟨first, rest, front⟩ := List.exists_cons_of_ne_nil (show parts ++ [name] ≠ [] by simp)
      have apart : first ≠ "." := (proper first (front ▸ List.mem_cons_self ..)).2.1
      rw [front]
      simpa [← String.toList_inj] using apart
  rw [parent?, split, same]
  simp [start]

end Bundler.Path
