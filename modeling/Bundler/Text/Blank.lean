/-!
White space: the characters with the White_Space property, which trimming removes, and the line
terminators of scripts.
-/

namespace Bundler.Text

/-- Whether a character has the White_Space property. -/
def isBlank (c : Char) : Bool :=
  let n := c.toNat
  (9 ≤ n && n ≤ 13) || n = 0x20 || n = 0x85 || n = 0xA0 || n = 0x1680 ||
    (0x2000 ≤ n && n ≤ 0x200A) || n = 0x2028 || n = 0x2029 || n = 0x202F || n = 0x205F || n = 0x3000

/-- Whether a character ends a line of a script. -/
def isLineTerminator (c : Char) : Bool :=
  c = '\n' || c = '\r' || c = '\u2028' || c = '\u2029'

/-- Whether a character separates tokens of a script without ending a line. -/
def isScriptSpace (c : Char) : Bool :=
  let n := c.toNat
  n = 0x20 || n = 9 || n = 11 || n = 12 || n = 0xA0 || n = 0xFEFF || n = 0x1680 ||
    (0x2000 ≤ n && n ≤ 0x200A) || n = 0x202F || n = 0x205F || n = 0x3000

/-- A text without the blanks at its end. -/
def trimEnd (text : String) : String :=
  String.ofList ((text.toList.reverse.dropWhile isBlank).reverse)

/-- Whether `front` is the start of a text up to where nothing but blanks follows, and no blank is at its end. -/
def Trims (text front : String) : Prop :=
  ∃ blanks, text.toList = front.toList ++ blanks ∧ (∀ c ∈ blanks, isBlank c = true) ∧
    ∀ c, front.toList.getLast? = some c → isBlank c = false

theorem trims_iff {text front : String} : Trims text front ↔ front = trimEnd text := by
  constructor
  · rintro ⟨blanks, whole, blank, ends⟩
    have stays : front.toList.reverse.dropWhile isBlank = front.toList.reverse := by
      cases turned : front.toList.reverse with
      | nil => rfl
      | cons last rest =>
        have last : front.toList.getLast? = some last := by rw [← List.head?_reverse, turned, List.head?_cons]
        rw [List.dropWhile_cons_of_neg (by simp [ends _ last])]
    have gone : (front.toList ++ blanks).reverse.dropWhile isBlank = front.toList.reverse := by
      rw [List.reverse_append, List.dropWhile_append_of_pos (by simpa using blank), stays]
    rw [trimEnd, whole, gone, List.reverse_reverse, String.ofList_toList]
  · rintro rfl
    refine ⟨(text.toList.reverse.takeWhile isBlank).reverse, ?_, fun c member => ?_, fun c last => ?_⟩
    · rw [trimEnd, String.toList_ofList, ← List.reverse_append, List.takeWhile_append_dropWhile, List.reverse_reverse]
    · exact List.all_eq_true.mp (List.all_takeWhile (p := isBlank)) c (List.mem_reverse.mp member)
    · rw [trimEnd, String.toList_ofList, List.getLast?_reverse] at last
      have first := List.head?_dropWhile_not isBlank text.toList.reverse
      rwa [last] at first

end Bundler.Text
