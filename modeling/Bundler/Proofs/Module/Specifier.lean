import Bundler.Proofs.Module.Id

/-!
What specifiers say in full. Slashes stand for the backslashes of a specifier, and an extension is written behind its
last segment where that has none.
-/

namespace Bundler

open Bundler.Path Bundler.Text

/-- The pieces of a text, the last one apart. -/
theorem Path.pieces_eq (text : String) :
    ∃ above, Text.pieces '/' text.toList = above ++ [ModuleId.lastPiece text] := by
  have some := Text.pieces_ne_nil '/' text.toList
  refine ⟨(Text.pieces '/' text.toList).dropLast, ?_⟩
  rw [ModuleId.lastPiece, List.getLast?_eq_some_getLast some, Option.getD_some, List.dropLast_concat_getLast some]

namespace ModuleId

variable {text : String} {name front last : List Char} {specifier extension completed : String}

theorem slash_not_mem_lastPiece (text : String) : '/' ∉ lastPiece text := by
  obtain ⟨above, cut⟩ := pieces_eq text
  exact not_mem_of_mem_pieces (cut ▸ List.mem_append_right above (List.mem_singleton_self _))

theorem lastPiece_of_pieces {above : List (List Char)} {piece : List Char}
    (cut : pieces '/' text.toList = above ++ [piece]) : lastPiece text = piece := by
  rw [lastPiece, cut, List.getLast?_concat, Option.getD_some]

/-- Whether a text is cut behind its last slash, or is not cut for want of one. -/
structure CutsLast (text front last : List Char) : Prop where
  whole : text = front ++ last
  plain : '/' ∉ last
  ends : front = [] ∨ front.getLast? = some '/'

/-- The last piece of a text is what stands behind its last slash. -/
theorem CutsLast.lastPiece_eq (cuts : CutsLast text.toList front last) : lastPiece text = last := by
  obtain ⟨whole, plain, rfl | ends⟩ := cuts
  · have alone : pieces '/' text.toList = [] ++ [last] := by
      rw [whole, List.nil_append, pieces_of_not_mem plain, List.nil_append]
    exact lastPiece_of_pieces alone
  · obtain ⟨above, rfl⟩ := List.getLast?_eq_some_iff.mp ends
    have cut : pieces '/' text.toList = pieces '/' above ++ [last] := by
      rw [whole, List.append_assoc, List.singleton_append, pieces_append, pieces_of_not_mem plain]
    exact lastPiece_of_pieces cut

theorem exists_cutsLast (text : String) : ∃ front, CutsLast text.toList front (lastPiece text) := by
  obtain ⟨above, cut⟩ := pieces_eq text
  have plain := slash_not_mem_lastPiece text
  have whole := join_pieces '/' text.toList
  rw [cut] at whole
  by_cases only : above = []
  · subst only
    exact ⟨[], whole.symm, plain, .inl rfl⟩
  · rw [joined_concat _ _ only, ← List.singleton_append, ← List.append_assoc] at whole
    exact ⟨joined '/' above ++ ['/'], whole.symm, plain, .inr List.getLast?_concat⟩

/-- Whether a file name has an extension, the part behind its last dot: something stands in front of that dot, and the
name is not `..`. -/
def Suffixed (name : List Char) : Prop :=
  name ≠ ['.', '.'] ∧ ∃ stem suffix, stem ≠ [] ∧ '.' ∉ suffix ∧ name = stem ++ '.' :: suffix

theorem suffixed_iff : Suffixed name ↔ hasExtension name = true := by
  simp only [hasExtension, decide_eq_true_eq]
  refine and_congr_right fun _ => ⟨?_, fun dot => ?_⟩
  · rintro ⟨stem, suffix, some, _, rfl⟩
    obtain ⟨first, rest, rfl⟩ := List.exists_cons_of_ne_nil some
    simp
  · obtain ⟨first, rest, rfl⟩ := List.exists_cons_of_ne_nil (List.ne_nil_of_mem (List.mem_of_mem_tail dot))
    obtain ⟨after, before, cut, clear⟩ := List.eq_append_cons_of_mem (List.mem_reverse.mpr dot)
    have split : rest = before.reverse ++ '.' :: after.reverse := by
      rw [← List.reverse_inj]
      simpa using cut
    exact ⟨first :: before.reverse, after.reverse, by simp, by simpa using clear, by rw [split, List.cons_append]⟩

/-- Whether a text says in full what a specifier says: slashes stand for the backslashes of the specifier, and if what
then stands behind the last slash has no extension, the one that is given is written behind it. -/
def Completes (specifier extension completed : String) : Prop :=
  ∃ front last, CutsLast (specifier.toList.map fun c => if c = '\\' then '/' else c) front last ∧
    (Suffixed last ∧ completed.toList = front ++ last ∨
      ¬ Suffixed last ∧ completed.toList = front ++ last ++ '.' :: extension.toList)

/-- A specifier has one text that says it in full. -/
theorem completes_iff : Completes specifier extension completed ↔ completed = complete specifier extension := by
  have slashed : specifier.toList.map (fun c => if c = '\\' then '/' else c) = (toSlashes specifier).toList := by
    simp [toSlashes]
  have bare : (toSlashes specifier ++ "." ++ extension).toList = (toSlashes specifier).toList ++ '.' :: extension.toList := by
    simp
  rw [Completes, slashed]
  constructor
  · rintro ⟨front, last, cuts, ⟨has, same⟩ | ⟨none, same⟩⟩
    · rw [suffixed_iff, ← cuts.lastPiece_eq] at has
      rw [← String.toList_inj, same, complete, if_pos has, cuts.whole]
    · rw [suffixed_iff, ← cuts.lastPiece_eq] at none
      rw [← String.toList_inj, same, complete, if_neg none, bare, cuts.whole]
  · rintro rfl
    obtain ⟨front, cuts⟩ := exists_cutsLast (toSlashes specifier)
    refine ⟨front, _, cuts, ?_⟩
    rw [suffixed_iff, ← cuts.whole, complete]
    split
    · next has => exact .inl ⟨has, rfl⟩
    · next none => exact .inr ⟨none, bare⟩

end ModuleId

end Bundler
