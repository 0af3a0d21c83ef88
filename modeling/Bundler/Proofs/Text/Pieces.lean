import Bundler.Text.Pieces

/-!
Cutting a text and joining pieces undo each other.
-/

namespace Bundler.Text

variable {sep : Char} {piece cs : List Char}

/-- A text with a separator in it is cut there, whatever stands on its sides. -/
theorem pieces_append (sep : Char) (left right : List Char) :
    pieces sep (left ++ sep :: right) = pieces sep left ++ pieces sep right := by
  induction left with
  | nil => simp [pieces]
  | cons c cs ih =>
    by_cases same : c = sep
    · simp [pieces, same, ih]
    · cases found : pieces sep cs with
      | nil => exact absurd found (pieces_ne_nil sep cs)
      | cons first rest => simp [pieces, same, ih, found]

theorem pieces_of_not_mem (absent : sep ∉ cs) : pieces sep cs = [cs] := by
  induction cs with
  | nil => rfl
  | cons c cs ih =>
    simp only [List.mem_cons, not_or] at absent
    simp [pieces, Ne.symm absent.1, ih absent.2]

theorem not_mem_of_mem_pieces (member : piece ∈ pieces sep cs) : sep ∉ piece := by
  induction cs generalizing piece with
  | nil => simp_all [pieces]
  | cons c cs ih =>
    by_cases same : c = sep
    · simp only [pieces, same, if_true, List.mem_cons] at member
      rcases member with rfl | member
      · simp
      · exact ih member
    · cases found : pieces sep cs with
      | nil => exact absurd found (pieces_ne_nil sep cs)
      | cons first rest =>
        rw [found] at ih
        simp only [pieces, same, if_false, found, List.mem_cons] at member
        rcases member with rfl | member
        · have apart : sep ∉ first := ih (List.mem_cons_self ..)
          simp only [List.mem_cons, not_or]
          exact ⟨fun equal => same equal.symm, apart⟩
        · exact ih (List.mem_cons_of_mem first member)

theorem joined_cons (sep : Char) (piece : List Char) {rest : List (List Char)} (some : rest ≠ []) :
    joined sep (piece :: rest) = piece ++ sep :: joined sep rest := by
  cases rest with
  | nil => exact absurd rfl some
  | cons next rest => rfl

theorem joined_concat (sep : Char) (piece : List Char) {front : List (List Char)} (some : front ≠ []) :
    joined sep (front ++ [piece]) = joined sep front ++ sep :: piece := by
  induction front with
  | nil => exact absurd rfl some
  | cons first rest ih =>
    by_cases last : rest = []
    · subst last
      rfl
    · rw [List.cons_append, joined_cons sep first (by simp), ih last, joined_cons sep first last]
      simp

/-- Joining adds separators alone. -/
theorem mem_joined_iff {c : Char} (other : c ≠ sep) {parts : List (List Char)} :
    c ∈ joined sep parts ↔ ∃ piece ∈ parts, c ∈ piece := by
  induction parts with
  | nil => simp [joined]
  | cons first rest ih =>
    by_cases last : rest = []
    · simp [last, joined]
    · simp [joined_cons sep first last, other, ih]

theorem pieces_joined {parts : List (List Char)} (some : parts ≠ []) (apart : ∀ piece ∈ parts, sep ∉ piece) :
    pieces sep (joined sep parts) = parts := by
  induction parts with
  | nil => exact absurd rfl some
  | cons first rest ih =>
    have alone : pieces sep first = [first] := pieces_of_not_mem (apart first (List.mem_cons_self ..))
    by_cases last : rest = []
    · simp only [last, joined, alone]
    · have others := ih last fun piece member => apart piece (List.mem_cons_of_mem first member)
      rw [joined_cons sep first last, pieces_append, alone, others, List.singleton_append]

/-- Joining with a one-character text between is joining with the character. -/
theorem toList_intercalate (sep : Char) (parts : List String) :
    ((String.singleton sep).intercalate parts).toList = joined sep (parts.map String.toList) := by
  induction parts with
  | nil => simp [joined]
  | cons first rest ih =>
    cases rest with
    | nil => simp [joined]
    | cons next rest =>
      rw [String.intercalate_cons_cons, String.toList_append, String.toList_append, ih]
      simp [joined]

end Bundler.Text
