import Bundler.Proofs.Text.Literal
import Bundler.Script.Scanner

/-!
The tokens that texts of a known spelling are read as: a quoted text is one string.
-/

namespace Bundler.Script.Scanner

open Text.Quoted

variable {strict : Bool} {start offset fuel : Nat} {c : Char} {value chars rest : List Char} {flaws : List SyntaxError}

theorem digitValue?_hexDigit (n : Nat) : digitValue? 16 (Text.hexDigit n) = some (n % 16) := by
  rw [digitValue?, Text.Literal.hexValue?_hexDigit, Option.bind_some, if_pos (Nat.mod_lt _ (by decide))]

theorem hexDigit_ne_underscore (n : Nat) : Text.hexDigit n ≠ '_' := by
  intro same
  have value := digitValue?_hexDigit n
  rw [same, show digitValue? 16 '_' = none by decide] at value
  cases value

theorem exactDigits_hexFour (n : Nat) (rest : List Char) (offset : Nat) :
    exactDigits 16 4 ⟨Text.hexFour n ++ rest, offset⟩ =
      ⟨[n / 4096 % 16, n / 256 % 16, n / 16 % 16, n % 16], ⟨rest, offset + 4⟩, false⟩ := by
  simp [exactDigits, Text.hexFour, digitsFrom, digitValue?_hexDigit, hexDigit_ne_underscore]

/-- Four digits behind `\u` stand for the character with their number, unless that is half of a pair. -/
theorem unicodeEscape_hexFour (n : Nat) (small : n < 0xD800) (rest : List Char) (offset : Nat) :
    unicodeEscape ⟨'u' :: (Text.hexFour n ++ rest), offset⟩ = ⟨.ok [.ofNat n], ⟨rest, offset + 5⟩, false⟩ := by
  have flat : (Text.hexFour n ++ rest).head? ≠ some '{' :=
    fun same => Text.Literal.hexDigit_ne_brace _ (Option.some.inj same)
  have value : valueOf 16 [n / 4096 % 16, n / 256 % 16, n / 16 % 16, n % 16] = n := by
    simp only [valueOf, List.foldl_cons, List.foldl_nil]
    omega
  simp only [unicodeEscape, Cursor.drop, List.drop_succ_cons, List.drop_zero, flat, if_false,
    exactDigits_hexFour, value]
  have fits : ¬ n > 0xFFFFFFFF := by omega
  have scalar : ¬ n > 0x10FFFF := by omega
  have whole : ¬ 0xD800 ≤ n := by omega
  simp [fits, scalar, whole]

theorem escape_hexFour (n : Nat) (small : n < 0xD800) (rest : List Char) (offset : Nat) :
    escape ⟨'\\' :: 'u' :: (Text.hexFour n ++ rest), offset⟩ = ⟨.ok [.ofNat n], ⟨rest, offset + 6⟩, false⟩ := by
  have behind : (⟨'\\' :: 'u' :: (Text.hexFour n ++ rest), offset⟩ : Cursor).drop 1 =
      ⟨'u' :: (Text.hexFour n ++ rest), offset + 1⟩ := rfl
  simp only [escape, behind, unicodeEscape_hexFour n small]

theorem stringBody_escaped {spelled after : Cursor} (slash : spelled.rest.head? = some '\\')
    (found : escape spelled = ⟨.ok chars, after, false⟩) :
    stringBody strict '"' start (fuel + 1) spelled value flaws =
      stringBody strict '"' start fuel after (chars.reverse ++ value) flaws := by
  obtain ⟨_ | ⟨first, rest⟩, offset⟩ := spelled
  · cases slash
  · obtain rfl : first = '\\' := Option.some.inj slash
    simp [stringBody, found]

/-- A character as it stands between quotes is read as that character. -/
theorem stringBody_escapeChar (c : Char) :
    stringBody strict '"' start (fuel + 1) ⟨escapeChar c ++ rest, offset⟩ value flaws =
      stringBody strict '"' start fuel ⟨rest, offset + (escapeChar c).length⟩ (c :: value) flaws := by
  unfold escapeChar
  split
  case h_1 => rfl
  case h_2 => rfl
  case h_3 => rfl
  case h_4 => rfl
  case h_5 => rfl
  case h_6 => rfl
  case h_7 => rfl
  case h_8 quote backslash feed ret tab line paragraph =>
    split
    · next control =>
      have found := escape_hexFour c.toNat (by omega) rest offset
      rw [Char.ofNat_toNat] at found
      exact stringBody_escaped rfl found
    · simp [stringBody, Cursor.drop, show c ≠ '"' from quote, show c ≠ '\\' from backslash, show c ≠ '\n' from feed,
        show c ≠ '\r' from ret]

theorem stringBody_escapeChars (chars : List Char) (enough : chars.length < fuel) :
    stringBody strict '"' start fuel ⟨escapeChars chars ++ '"' :: rest, offset⟩ value flaws =
      (.complete (value.reverse ++ chars) ⟨rest, offset + (escapeChars chars).length + 1⟩, flaws) := by
  induction chars generalizing fuel offset value with
  | nil =>
    obtain ⟨fuel, rfl⟩ := Nat.exists_eq_succ_of_ne_zero (Nat.ne_zero_of_lt enough)
    rw [List.append_nil]
    rfl
  | cons c chars ih =>
    obtain ⟨fuel, rfl⟩ := Nat.exists_eq_succ_of_ne_zero (Nat.ne_zero_of_lt enough)
    have less : chars.length < fuel := by simpa using enough
    rw [escapeChars, List.flatMap_cons, List.append_assoc, stringBody_escapeChar, ← escapeChars, ih less]
    simp [Nat.add_assoc]

theorem length_le_escapeChars (chars : List Char) : chars.length ≤ (escapeChars chars).length := by
  induction chars with
  | nil => exact Nat.zero_le _
  | cons c chars ih =>
    have some : 0 < (escapeChar c).length := by
      unfold escapeChar
      split
      case h_8 => split <;> simp
      all_goals decide
    rw [escapeChars, List.flatMap_cons, ← escapeChars, List.length_append, List.length_cons]
    omega

/-- A quoted text is one string, with the text for its value, whatever stands behind it. -/
theorem string_quote (strict : Bool) (text : String) (rest : List Char) (offset : Nat) :
    string strict ⟨(quote text).toList ++ rest, offset⟩ =
      .token (.string text (quote text)) ⟨rest, offset + (quote text).toList.length⟩ [] := by
  have spelled : (quote text).toList = '"' :: (escapeChars text.toList ++ ['"']) := String.toList_ofList
  have size : (quote text).toList.length = (escapeChars text.toList).length + 2 := by simp [spelled]
  have body : stringBody strict '"' offset (((quote text).toList ++ rest).length + 1)
      ⟨escapeChars text.toList ++ '"' :: rest, offset + 1⟩ [] [] =
        (.complete text.toList ⟨rest, offset + (quote text).toList.length⟩, []) := by
    have least := length_le_escapeChars text.toList
    have sum : offset + 1 + (escapeChars text.toList).length + 1 = offset + (quote text).toList.length := by omega
    rw [stringBody_escapeChars text.toList (by rw [List.length_append, size]; omega), sum]
    rfl
  have taken : Cursor.upTo ⟨(quote text).toList ++ rest, offset⟩ ⟨rest, offset + (quote text).toList.length⟩ =
      (quote text).toList := by
    rw [Cursor.upTo, Nat.add_sub_cancel_left, List.take_left']
    rfl
  have opens : ((quote text).toList ++ rest).head? = some '"' := by rw [spelled]; rfl
  have inside : Cursor.drop ⟨(quote text).toList ++ rest, offset⟩ 1 =
      ⟨escapeChars text.toList ++ '"' :: rest, offset + 1⟩ := by
    simp [Cursor.drop, spelled]
  simp only [string, opens, Option.getD_some, inside, body, taken, String.ofList_toList]

end Bundler.Script.Scanner
