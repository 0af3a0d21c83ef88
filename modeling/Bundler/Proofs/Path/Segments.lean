import Bundler.Path.Segments
import Bundler.Proofs.Text.Pieces

/-!
The segments of texts that are put together, and what collapsing leaves of segments: some `..` at the
start, then names. What climbs at the start stays out of all that follows.
-/

namespace Bundler.Path

open Text

/-- What can stand between slashes and says something. -/
def IsSegment (segment : String) : Prop := segment ≠ "" ∧ segment ≠ "." ∧ '/' ∉ segment.toList

/-- A segment that leads down. -/
def IsName (segment : String) : Prop := IsSegment segment ∧ segment ≠ ".."

theorem isSegment_up : IsSegment ".." := by simp [IsSegment]

section Segments

variable {segment : String} {parts : List String}

@[simp] theorem segments_empty : segments "" = [] := by simp [segments, pieces]

@[simp] theorem segments_dot : segments "." = [] := by simp [segments, pieces]

theorem segments_append (left right : String) :
    segments (left ++ "/" ++ right) = segments left ++ segments right := by
  have cut : (left ++ "/" ++ right).toList = left.toList ++ '/' :: right.toList := by simp
  rw [segments, cut, pieces_append, List.filter_append, List.map_append]
  rfl

theorem isSegment_of_mem {text : String} (member : segment ∈ segments text) : IsSegment segment := by
  simp only [segments, List.mem_map, List.mem_filter, decide_eq_true_eq] at member
  obtain ⟨piece, ⟨cut, some, dot⟩, rfl⟩ := member
  refine ⟨fun same => some ?_, fun same => dot ?_, ?_⟩
  · simpa using congrArg String.toList same
  · simpa using congrArg String.toList same
  · rw [String.toList_ofList]
    exact not_mem_of_mem_pieces cut

theorem toList_slashed (parts : List String) : (slashed parts).toList = joined '/' (parts.map String.toList) :=
  toList_intercalate '/' parts

theorem segments_of_pieces {text : String} (cut : pieces '/' text.toList = parts.map String.toList)
    (proper : ∀ segment ∈ parts, IsSegment segment) : segments text = parts := by
  have kept : (parts.map String.toList).filter (fun piece => piece ≠ [] ∧ piece ≠ ['.']) = parts.map String.toList := by
    rw [List.filter_eq_self]
    intro piece member
    obtain ⟨segment, there, rfl⟩ := List.mem_map.mp member
    obtain ⟨some, dot, _⟩ := proper segment there
    have dot' : segment.toList ≠ ['.'] := fun same => dot (String.toList_inj.mp same)
    simpa using ⟨some, dot'⟩
  rw [segments, cut, kept, List.map_map]
  have back : String.ofList ∘ String.toList = id := funext fun _ => String.ofList_toList
  rw [back, List.map_id]

theorem pieces_slashed (some : parts ≠ []) (proper : ∀ segment ∈ parts, IsSegment segment) :
    pieces '/' (slashed parts).toList = parts.map String.toList := by
  rw [toList_slashed]
  refine pieces_joined (by simpa using some) fun piece member => ?_
  obtain ⟨segment, there, rfl⟩ := List.mem_map.mp member
  exact (proper segment there).2.2

theorem segments_slashed (proper : ∀ segment ∈ parts, IsSegment segment) : segments (slashed parts) = parts := by
  by_cases some : parts = []
  · rw [some]
    exact segments_empty
  · exact segments_of_pieces (pieces_slashed some proper) proper

end Segments

section Collapse

variable {bounded : Bool} {segment : String} {parts names stack : List String} {climb : Nat}

theorem push_name (bounded : Bool) (stack : List String) (name : segment ≠ "..") :
    push bounded stack segment = segment :: stack := by
  simp [push, name]

/-- What lies under the segments that a free stack has taken stays there. -/
theorem push_append (stack : List String) (segment : String) (climb : Nat) :
    push false (stack ++ List.replicate climb "..") segment = push false stack segment ++ List.replicate climb ".." := by
  by_cases up : segment = ".."
  · cases stack with
    | nil => cases climb <;> simp [push, up, List.replicate_succ]
    | cons top rest => by_cases same : top = ".." <;> simp [push, up, same]
  · simp [push, up]

theorem foldl_push_append (parts stack : List String) (climb : Nat) :
    parts.foldl (push false) (stack ++ List.replicate climb "..") =
      parts.foldl (push false) stack ++ List.replicate climb ".." := by
  induction parts generalizing stack with
  | nil => rfl
  | cons segment rest ih => rw [List.foldl_cons, List.foldl_cons, push_append, ih]

theorem foldl_push_names (bounded : Bool) (stack : List String) (down : ".." ∉ names) :
    names.foldl (push bounded) stack = names.reverse ++ stack := by
  induction names generalizing stack with
  | nil => rfl
  | cons segment rest ih =>
    simp only [List.mem_cons, not_or] at down
    rw [List.foldl_cons, push_name bounded stack (Ne.symm down.1), ih _ down.2]
    simp

theorem foldl_push_climb (climb : Nat) :
    (List.replicate climb "..").foldl (push false) [] = List.replicate climb ".." := by
  induction climb with
  | zero => rfl
  | succ climb ih =>
    have first : push false [] ".." = [] ++ List.replicate 1 ".." := by simp [push]
    rw [List.replicate_succ, List.foldl_cons, first, foldl_push_append, ih, List.replicate_append_replicate,
      List.replicate_succ]

theorem push_up_bounded (up : segment = "..") (down : ".." ∉ stack) : push true stack segment = stack.tail := by
  cases stack with
  | nil => simp [push, up]
  | cons top rest =>
    simp only [List.mem_cons, not_or] at down
    simp [push, up, Ne.symm down.1]

/-- Below the root of the file system every `..` takes a segment back, as long as there is one. -/
theorem foldl_push_bounded (climb : Nat) (stack : List String) (down : ".." ∉ stack) :
    (List.replicate climb "..").foldl (push true) stack = stack.drop climb := by
  induction climb generalizing stack with
  | zero => rfl
  | succ climb ih =>
    rw [List.replicate_succ, List.foldl_cons, push_up_bounded rfl down,
      ih _ fun member => down (List.mem_of_mem_tail member), List.drop_tail]

/-- What climbs at the start is over where the names begin. -/
theorem takeWhile_climb (climb : Nat) (down : ".." ∉ names) :
    (List.replicate climb ".." ++ names).takeWhile (· = "..") = List.replicate climb ".." := by
  have stops : names.takeWhile (· = "..") = [] := by
    cases names with
    | nil => rfl
    | cons first rest =>
      have apart : first ≠ ".." := fun same => down (same ▸ List.mem_cons_self)
      simp [apart]
  have climbs : ∀ segment ∈ List.replicate climb "..", decide (segment = "..") = true := fun segment member => by
    simp [List.eq_of_mem_replicate member]
  rw [List.takeWhile_append_of_pos climbs, stops, List.append_nil]

/-- What climbs first is not collapsed. -/
theorem collapse_climb (climb : Nat) (parts : List String) :
    collapse false (List.replicate climb ".." ++ parts) = List.replicate climb ".." ++ collapse false parts := by
  have under := foldl_push_append parts [] climb
  rw [List.nil_append] at under
  rw [collapse, collapse, List.foldl_append, foldl_push_climb, under, List.reverse_append, List.reverse_replicate]

/-- A `..` is left only where it is free to climb. Behind a path from the root of the file system it takes a
segment of the path back instead. -/
theorem foldl_push_settled (parts : List String) : ∀ stack, ".." ∉ stack → ∀ climb, ∃ names climb', ".." ∉ names ∧
    parts.foldl (push false) (stack ++ List.replicate climb "..") = names ++ List.replicate climb' ".." ∧
    ∀ base : List String, ".." ∉ base → parts.foldl (push true) (stack ++ base.drop climb) = names ++ base.drop climb' := by
  induction parts with
  | nil => exact fun stack down climb => ⟨stack, climb, down, rfl, fun _ _ => rfl⟩
  | cons segment rest ih =>
    intro stack down climb
    simp only [List.foldl_cons, push_append]
    by_cases up : segment = ".."
    · cases stack with
      | nil =>
        have more : push false [] segment ++ List.replicate climb ".." = [] ++ List.replicate (climb + 1) ".." := by
          simp [push, up, List.replicate_succ]
        obtain ⟨names, climb', down', free, bounded⟩ := ih [] down (climb + 1)
        refine ⟨names, climb', down', by rw [more, free], fun base below => ?_⟩
        rw [← bounded base below, List.nil_append, List.nil_append, push_up_bounded up fun member =>
          below (List.mem_of_mem_drop member), List.tail_drop]
      | cons top under =>
        simp only [List.mem_cons, not_or] at down
        have back (bounded : Bool) (bottom : List String) : push bounded (top :: (under ++ bottom)) segment =
            under ++ bottom := by simp [push, up, Ne.symm down.1]
        obtain ⟨names, climb', down', free, bounded⟩ := ih under down.2 climb
        have back' := back false []
        rw [List.append_nil] at back'
        exact ⟨names, climb', down', by rw [back', free], fun base below => by
          rw [← bounded base below, List.cons_append, back]⟩
    · rw [push_name false stack up]
      obtain ⟨names, climb', down', free, bounded⟩ := ih (segment :: stack) (by
        simp only [List.mem_cons, not_or]
        exact ⟨Ne.symm up, down⟩) climb
      refine ⟨names, climb', down', free, fun base below => ?_⟩
      rw [← bounded base below, push_name true _ up, List.cons_append]

/-- What is left of segments climbs, and then leads down. -/
theorem collapse_eq (parts : List String) : ∃ climb names, ".." ∉ names ∧
    collapse false parts = List.replicate climb ".." ++ names := by
  obtain ⟨names, climb, down, settled, _⟩ := foldl_push_settled parts [] (by simp) 0
  refine ⟨climb, names.reverse, by simpa using down, ?_⟩
  simp only [List.replicate_zero, List.append_nil] at settled
  rw [collapse, settled, List.reverse_append, List.reverse_replicate]

theorem mem_foldl_push (member : segment ∈ parts.foldl (push bounded) stack) : segment ∈ parts ∨ segment ∈ stack := by
  induction parts generalizing stack with
  | nil => exact .inr member
  | cons first rest ih =>
    rcases ih member with later | pushed
    · exact .inl (List.mem_cons_of_mem first later)
    · by_cases up : first = ".."
      · cases stack with
        | nil => cases bounded <;> simp_all [push]
        | cons top under => by_cases same : top = ".." <;> simp_all [push]
      · rw [push_name bounded stack up] at pushed
        rcases List.mem_cons.mp pushed with rfl | before
        · exact .inl (List.mem_cons_self ..)
        · exact .inr before

/-- Collapsing takes segments away and makes none. -/
theorem mem_of_mem_collapse (member : segment ∈ collapse bounded parts) : segment ∈ parts := by
  rw [collapse, List.mem_reverse] at member
  simpa using mem_foldl_push member

theorem foldl_push_down (parts : List String) (down : ".." ∉ stack) : ".." ∉ parts.foldl (push true) stack := by
  induction parts generalizing stack with
  | nil => exact down
  | cons segment rest ih =>
    rw [List.foldl_cons]
    apply ih
    by_cases up : segment = ".."
    · rw [push_up_bounded up down]
      exact fun member => down (List.mem_of_mem_tail member)
    · rw [push_name true stack up]
      simp only [List.mem_cons, not_or]
      exact ⟨Ne.symm up, down⟩

/-- Below the root of the file system nothing climbs. -/
theorem up_not_mem_collapse (parts : List String) : ".." ∉ collapse true parts := by
  rw [collapse, List.mem_reverse]
  exact foldl_push_down parts (by simp)

/-- Behind a path from the root of the file system, what climbs takes the end of it back, as far as it goes. -/
theorem collapse_below (base : List String) (climb : Nat) (down : ".." ∉ names) :
    collapse true (base ++ (List.replicate climb ".." ++ names)) =
      (collapse true base).take ((collapse true base).length - climb) ++ names := by
  have bottom : ".." ∉ base.foldl (push true) [] := foldl_push_down base (by simp)
  rw [collapse, List.foldl_append, List.foldl_append, foldl_push_bounded climb _ bottom,
    foldl_push_names true _ down, List.reverse_append, List.reverse_reverse, List.reverse_drop, collapse,
    List.length_reverse]

/-- Behind a path from the root of the file system, segments lead where what is left of them leads. -/
theorem collapse_onward (base parts : List String) :
    collapse true (base ++ parts) = collapse true (base ++ collapse false parts) := by
  have bottom : ".." ∉ base.foldl (push true) [] := foldl_push_down base (by simp)
  obtain ⟨names, climb, down, free, bounded⟩ := foldl_push_settled parts [] (by simp) 0
  simp only [List.replicate_zero, List.append_nil] at free
  have left : collapse false parts = List.replicate climb ".." ++ names.reverse := by
    rw [collapse, free, List.reverse_append, List.reverse_replicate]
  have onward := bounded _ bottom
  simp only [List.drop_zero, List.nil_append] at onward
  have behind : (base ++ (List.replicate climb ".." ++ names.reverse)).foldl (push true) [] =
      names ++ (base.foldl (push true) []).drop climb := by
    rw [List.foldl_append, List.foldl_append, foldl_push_bounded climb _ bottom,
      foldl_push_names true _ (by simpa using down), List.reverse_reverse]
  rw [left, collapse, collapse, List.foldl_append, onward, behind]

theorem collapse_names (bounded : Bool) (down : ".." ∉ names) : collapse bounded names = names := by
  rw [collapse, foldl_push_names bounded [] down, List.append_nil, List.reverse_reverse]

/-- What is left of segments is left as it is. -/
theorem collapse_collapse (bounded : Bool) (parts : List String) :
    collapse bounded (collapse bounded parts) = collapse bounded parts := by
  cases bounded with
  | true => exact collapse_names true (up_not_mem_collapse parts)
  | false =>
    obtain ⟨climb, names, down, settled⟩ := collapse_eq parts
    rw [settled, collapse_climb, collapse_names false down]

theorem collapse_climbs (proper : ∀ segment ∈ parts, IsSegment segment) :
    ∃ ups names, (∀ name ∈ names, IsName name) ∧ collapse false parts = List.replicate ups ".." ++ names := by
  obtain ⟨ups, names, down, settled⟩ := collapse_eq parts
  refine ⟨ups, names, fun name member => ⟨?_, fun same => down (same ▸ member)⟩, settled⟩
  have left : name ∈ collapse false parts := settled ▸ List.mem_append_right _ member
  exact proper name (mem_of_mem_collapse left)

/-- From the place that segments lead to, others lead on as they do behind the segments. -/
theorem collapse_place (bounded : Bool) (base parts : List String) :
    collapse bounded (collapse bounded base ++ parts) = collapse bounded (base ++ parts) := by
  have back : (collapse bounded base).foldl (push bounded) [] = base.foldl (push bounded) [] :=
    List.reverse_inj.mp (collapse_collapse bounded base)
  rw [collapse, List.foldl_append, back, ← List.foldl_append, ← collapse]

/-- Below a directory, names lead to where they say. -/
theorem collapse_append_names (base : List String) (down : ".." ∉ names) :
    collapse bounded (base ++ names) = collapse bounded base ++ names := by
  rw [collapse, List.foldl_append, foldl_push_names bounded _ down, List.reverse_append, List.reverse_reverse, collapse]

theorem collapse_concat (base : List String) (name : segment ≠ "..") :
    collapse bounded (base ++ [segment]) = collapse bounded base ++ [segment] :=
  collapse_append_names base (by simpa using name.symm)

end Collapse

end Bundler.Path
