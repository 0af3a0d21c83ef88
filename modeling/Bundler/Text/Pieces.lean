/-!
Cutting a text at a separator and putting it together again. `join_pieces` says that nothing is
lost on the way.
-/

namespace Bundler.Text

/-- The pieces of a text between the occurrences of `sep`: one piece more than separators. -/
def pieces (sep : Char) : List Char → List (List Char)
  | [] => [[]]
  | c :: cs =>
    if c = sep then [] :: pieces sep cs
    else match pieces sep cs with
      | [] => [[c]]
      | piece :: rest => (c :: piece) :: rest

/-- The texts of a list with `sep` between neighbours. -/
def joined (sep : Char) : List (List Char) → List Char
  | [] => []
  | [piece] => piece
  | piece :: rest => piece ++ sep :: joined sep rest

theorem pieces_ne_nil (sep : Char) (cs : List Char) : pieces sep cs ≠ [] := by
  induction cs with
  | nil => simp [pieces]
  | cons c cs ih =>
    unfold pieces
    split
    · simp
    · split <;> simp

theorem join_pieces (sep : Char) (cs : List Char) : joined sep (pieces sep cs) = cs := by
  induction cs with
  | nil => rfl
  | cons c cs ih =>
    have some := pieces_ne_nil sep cs
    unfold pieces
    split
    · next same =>
      cases found : pieces sep cs with
      | nil => exact absurd found some
      | cons piece rest => rw [found] at ih; simp [joined, ih, same]
    · cases found : pieces sep cs with
      | nil => exact absurd found some
      | cons piece rest =>
        rw [found] at ih
        cases rest with
        | nil => simpa [joined] using ih
        | cons next rest => simpa [joined] using ih

end Bundler.Text
