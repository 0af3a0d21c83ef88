import Bundler.Text.Blank
import Bundler.Text.Quoted

/-!
String literals between double quotes as ECMAScript reads them up to its edition of 2018, where a
literal may not hold U+2028 or U+2029. A value is a sequence of UTF-16 code units. Reading a quoted
text gives the text back, whatever follows it.
-/

namespace Bundler.Text.Literal

/-- The code units of a code point. -/
def codeUnits (n : Nat) : List UInt16 :=
  if n < 0x10000 then [.ofNat n]
  else [.ofNat (0xD800 + (n - 0x10000) / 0x400), .ofNat (0xDC00 + (n - 0x10000) % 0x400)]

/-- The code units of a text. -/
def units (chars : List Char) : List UInt16 := chars.flatMap fun c => codeUnits c.toNat

/-- The code point that a character stands for behind a backslash, if it is one of those that stand
for another. -/
def single? : Char → Option Nat
  | '\'' => some 0x27
  | '"' => some 0x22
  | '\\' => some 0x5C
  | 'b' => some 0x08
  | 'f' => some 0x0C
  | 'n' => some 0x0A
  | 'r' => some 0x0D
  | 't' => some 0x09
  | 'v' => some 0x0B
  | _ => none

/-- The value of hexadecimal digits. -/
def numeral (digits : List Char) : Option Nat :=
  digits.foldlM (fun value digit => (hexValue? digit).map (value * 16 + ·)) 0

/-- What has been read of a literal: its value and what stands behind its closing quote. -/
abbrev Reading := Option (List UInt16 × List Char)

/-- A reading with code units in front. -/
def Reading.push (first : List UInt16) (reading : Reading) : Reading :=
  reading.map fun (value, rest) => (first ++ value, rest)

mutual

/-- A literal from a character behind its opening quote on. -/
def body : List Char → Reading
  | [] => none
  | c :: rest =>
    if c = '"' then some ([], rest)
    else if c = '\\' then escape rest
    else if isLineTerminator c then none
    else (body rest).push (codeUnits c.toNat)

/-- A literal from a character behind a backslash on. -/
def escape : List Char → Reading
  | [] => none
  | c :: rest =>
    match single? c with
    | some n => (body rest).push (codeUnits n)
    | none =>
      if c = 'u' then unicode rest
      else if c = 'x' then
        match rest with
        | high :: low :: rest => (numeral [high, low]).bind fun n => (body rest).push (codeUnits n)
        | _ => none
      else if c = '0' then
        if rest.head?.any Char.isDigit then none else (body rest).push (codeUnits 0)
      else if c.isDigit then none
      else if c = '\r' ∧ rest.head? = some '\n' then
        match rest with
        | _ :: rest => body rest
        | [] => none
      else if isLineTerminator c then body rest
      else (body rest).push (codeUnits c.toNat)

/-- A literal from a character behind `\u` on. -/
def unicode : List Char → Reading
  | '{' :: rest => codePoint none rest
  | first :: second :: third :: fourth :: rest =>
    (numeral [first, second, third, fourth]).bind fun n => (body rest).push (codeUnits n)
  | _ => none

/-- A literal from a character between `\u{` and the closing brace on. -/
def codePoint : Option Nat → List Char → Reading
  | _, [] => none
  | value, c :: rest =>
    if c = '}' then
      match value with
      | some n => if n ≤ 0x10FFFF then (body rest).push (codeUnits n) else none
      | none => none
    else (hexValue? c).bind fun digit => codePoint (some (value.getD 0 * 16 + digit)) rest

end

/-- Reads a literal and leaves what stands behind it. -/
def read : List Char → Reading
  | '"' :: rest => body rest
  | _ => none

/-! ### Values -/

variable {c d : Char} {chars chars' rest : List Char}

theorem toNat_injective (same : c.toNat = d.toNat) : c = d := Char.ext (UInt32.toNat_inj.mp same)

/-- A character below the surrogates, or between them and the end of the first plane, is one code unit, and any
other is a pair of surrogates. -/
theorem codeUnits_cases (c : Char) : (∃ unit : UInt16, codeUnits c.toNat = [unit] ∧ unit.toNat = c.toNat ∧
      (c.toNat < 0xD800 ∨ 0xDFFF < c.toNat)) ∨
    ∃ high low : UInt16, codeUnits c.toNat = [high, low] ∧ 0xD800 ≤ high.toNat ∧ high.toNat < 0xDC00 ∧
      c.toNat = 0x10000 + (high.toNat - 0xD800) * 0x400 + (low.toNat - 0xDC00) := by
  have valid : c.toNat < 0xD800 ∨ 0xDFFF < c.toNat ∧ c.toNat < 0x110000 := c.valid
  unfold codeUnits
  split
  · next small =>
    refine .inl ⟨.ofNat c.toNat, rfl, ?_, by omega⟩
    rw [UInt16.toNat_ofNat', Nat.mod_eq_of_lt small]
  · refine .inr ⟨_, _, rfl, ?_⟩
    simp only [UInt16.toNat_ofNat']
    omega

/-- A text can be told from its code units. -/
theorem units_injective (same : units chars = units chars') : chars = chars' := by
  induction chars generalizing chars' with
  | nil =>
    cases chars' with
    | nil => rfl
    | cons d chars' => rcases codeUnits_cases d with ⟨_, two, _⟩ | ⟨_, _, two, _⟩ <;> simp [units, two] at same
  | cons c chars ih =>
    cases chars' with
    | nil => rcases codeUnits_cases c with ⟨_, one, _⟩ | ⟨_, _, one, _⟩ <;> simp [units, one] at same
    | cons d chars' =>
      change codeUnits c.toNat ++ units chars = codeUnits d.toNat ++ units chars' at same
      rcases codeUnits_cases c with ⟨unit, one, value, plain⟩ | ⟨high, low, one, least, most, value⟩ <;>
        rcases codeUnits_cases d with ⟨unit', two, value', plain'⟩ | ⟨high', low', two, least', most', value'⟩ <;>
        simp only [one, two, List.cons_append, List.nil_append, List.cons.injEq] at same
      · obtain ⟨rfl, same⟩ := same
        rw [toNat_injective (value.symm.trans value'), ih same]
      · obtain ⟨rfl, _⟩ := same
        omega
      · obtain ⟨rfl, _⟩ := same
        omega
      · obtain ⟨rfl, rfl, same⟩ := same
        rw [toNat_injective (value.trans value'.symm), ih same]

/-! ### Quoted texts -/

theorem hexValue?_hexDigit (n : Nat) : hexValue? (hexDigit n) = some (n % 16) := by
  have digits : ∀ digit < 16, hexValue? (hexDigit digit) = some digit := by decide
  have same : hexDigit n = hexDigit (n % 16) := by rw [hexDigit, hexDigit, Nat.mod_mod]
  rw [same, digits _ (Nat.mod_lt _ (by decide))]

theorem numeral_hexFour (n : Nat) : numeral (hexFour n) = some (n % 65536) := by
  simp only [numeral, hexFour, List.foldlM, hexValue?_hexDigit, Option.map_some, Option.bind_eq_bind, Option.bind_some,
    Option.pure_def, Option.some.injEq]
  omega

theorem hexDigit_ne_brace (n : Nat) : hexDigit n ≠ '{' := by
  intro same
  have value := hexValue?_hexDigit n
  rw [same, show hexValue? '{' = none by decide] at value
  cases value

/-- Four digits behind `\u` stand for their number. -/
theorem unicode_hexFour (n : Nat) (rest : List Char) :
    unicode (hexFour n ++ rest) = (body rest).push (codeUnits (n % 65536)) := by
  change unicode (hexDigit (n / 4096) :: hexDigit (n / 256) :: hexDigit (n / 16) :: hexDigit n :: rest) = _
  rw [unicode.eq_2 _ _ _ _ _ fun same => hexDigit_ne_brace _ same]
  change (numeral (hexFour n)).bind _ = _
  rw [numeral_hexFour, Option.bind_some]

theorem body_escaped (c : Char) (rest : List Char) : body ('\\' :: c :: rest) = escape (c :: rest) := by
  rw [body, if_neg (by decide), if_pos rfl]

/-- What stands between quotes for a character has that character for its value. -/
theorem body_escapeChar (c : Char) (rest : List Char) :
    body (Quoted.escapeChar c ++ rest) = (body rest).push (codeUnits c.toNat) := by
  unfold Quoted.escapeChar
  split
  case h_1 => rfl
  case h_2 => rfl
  case h_3 => rfl
  case h_4 => rfl
  case h_5 => rfl
  case h_6 => exact unicode_hexFour 0x2028 rest
  case h_7 => exact unicode_hexFour 0x2029 rest
  case h_8 quote backslash feed ret tab line paragraph =>
    split
    · next control =>
      change body ('\\' :: 'u' :: (hexFour c.toNat ++ rest)) = _
      rw [body_escaped]
      change unicode (hexFour c.toNat ++ rest) = _
      rw [unicode_hexFour, Nat.mod_eq_of_lt (by omega)]
    · have plain : isLineTerminator c = false := by
        simp only [isLineTerminator, Bool.or_eq_false_iff, decide_eq_false_iff_not]
        exact ⟨⟨⟨feed, ret⟩, line⟩, paragraph⟩
      rw [List.singleton_append, body, if_neg quote, if_neg backslash, plain]
      rfl

theorem body_escapeChars (chars rest : List Char) :
    body (Quoted.escapeChars chars ++ '"' :: rest) = some (units chars, rest) := by
  induction chars with
  | nil => rfl
  | cons c chars ih =>
    rw [Quoted.escapeChars, List.flatMap_cons, List.append_assoc, body_escapeChar]
    rw [Quoted.escapeChars] at ih
    rw [ih]
    rfl

/-- Reading a quoted text consumes it and nothing behind it, and gives the text. -/
theorem read_quote (text : String) (rest : List Char) :
    read ((Quoted.quote text).toList ++ rest) = some (units text.toList, rest) := by
  rw [Quoted.quote, String.toList_ofList, List.cons_append, List.append_assoc, read]
  exact body_escapeChars text.toList rest

example : read "\"a\\u{1F600}\\x41\\0\\\nb\"c".toList = some ([97, 0xD83D, 0xDE00, 65, 0, 98], ['c']) := by
  cbv

end Bundler.Text.Literal
