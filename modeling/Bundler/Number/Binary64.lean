/-!
Numbers with 53 significant bits: the one nearest to a ratio, and the shortest decimal that reads
back as a given one.
-/

namespace Bundler.Number

/-- A finite number `mantissa · 2 ^ exponent`, or infinity. -/
inductive Binary64 where
  | finite (mantissa : Nat) (exponent : Int)
  | infinite
  deriving DecidableEq, Repr

namespace Binary64

/-- A quotient rounded to the nearest natural number, a half to the even one. -/
def roundHalfEven (num den : Nat) : Nat :=
  let q := num / den
  let twice := 2 * (num % den)
  if twice < den then q else if den < twice then q + 1 else if q % 2 = 0 then q else q + 1

/-- The ratio `num / den` in units of `2 ^ exponent`, rounded. -/
def scaled (num den : Nat) (exponent : Int) : Nat :=
  if exponent < 0 then roundHalfEven (num * Nat.pow 2 (-exponent).toNat) den
  else roundHalfEven num (den * Nat.pow 2 exponent.toNat)

/-- The exponent that gives `num / den` a mantissa of at most 53 bits, before rounding. -/
def exponentOf (num den : Nat) : Int :=
  let guess : Int := (num.log2 : Int) - den.log2 - 53
  let fits (e : Int) : Bool :=
    if e < 0 then num * Nat.pow 2 (-e).toNat < den * Nat.pow 2 53 else num < den * Nat.pow 2 (53 + e.toNat)
  let tight := if fits guess then guess else if fits (guess + 1) then guess + 1 else guess + 2
  max tight (-1074)

/-- The number nearest to `num / den`; a tie goes to the even mantissa. -/
def ofRatio (num den : Nat) : Binary64 :=
  if num = 0 then .finite 0 (-1074)
  else
    let exponent := exponentOf num den
    let mantissa := scaled num den exponent
    let (mantissa, exponent) := if mantissa = Nat.pow 2 53 then (Nat.pow 2 52, exponent + 1) else (mantissa, exponent)
    if exponent > 971 then .infinite else .finite mantissa exponent

/-- The number nearest to `digits · 10 ^ power`. -/
def ofDecimal (digits : Nat) (power : Int) : Binary64 :=
  if digits = 0 then .finite 0 (-1074)
  else if power > 400 then .infinite
  else if power + (Nat.toDigits 10 digits).length < -400 then .finite 0 (-1074)
  else if power < 0 then ofRatio digits (Nat.pow 10 (-power).toNat)
  else ofRatio (digits * Nat.pow 10 power.toNat) 1

/-- A natural number over a common denominator `2 ^ 1076`, so that a number and the middles to its
neighbours are all whole. -/
def numerator (quarters : Nat) (exponent : Int) : Nat := quarters * Nat.pow 2 (exponent + 1074).toNat

/-- The decimals `d · 10 ^ power` next to a number, if they read back as it. -/
def candidate? (value low high : Nat) (even : Bool) (power : Int) : Option Nat :=
  let unit := Nat.pow 2 1076 * Nat.pow 10 power.toNat
  let stretch := Nat.pow 10 (-power).toNat
  let below := value * stretch / unit
  let inside (d : Nat) : Bool :=
    if even then low * stretch ≤ d * unit && d * unit ≤ high * stretch
    else low * stretch < d * unit && d * unit < high * stretch
  let nearer := if 2 * (value * stretch - below * unit) ≤ unit then [below, below + 1] else [below + 1, below]
  nearer.find? (fun d => 0 < d && inside d)

/-- The shortest decimal that reads back as `mantissa · 2 ^ exponent`, nearest of its length: its
digits and the power of ten of the last one. -/
def shortest (mantissa : Nat) (exponent : Int) : Nat × Int :=
  if mantissa = 0 then (0, 0)
  else
    let value := numerator (4 * mantissa) exponent
    let high := numerator (4 * mantissa + 2) exponent
    let low := if mantissa = Nat.pow 2 52 ∧ exponent > -1074 then numerator (4 * mantissa - 1) exponent
      else numerator (4 * mantissa - 2) exponent
    let top : Int := (Nat.toDigits 10 (value / Nat.pow 2 1076)).length
    let start : Int := if value / Nat.pow 2 1076 = 0 then 0 else top
    let powers := (List.range 360).map fun (n : Nat) => start - (n : Int)
    match powers.findSome? (fun power =>
      (candidate? value low high (mantissa % 2 = 0) power).map (·, power)) with
    | some found => found
    | none => (mantissa, exponent)

/-- The text of `digits · 10 ^ power`, always positional. -/
def positional (digits : Nat) (power : Int) : String :=
  let text := Nat.toDigits 10 digits
  if power < 0 then
    let places := (-power).toNat
    let padded := List.replicate (places + 1 - text.length) '0' ++ text
    let whole := padded.length - places
    String.ofList (padded.take whole ++ '.' :: padded.drop whole)
  else String.ofList (text ++ List.replicate power.toNat '0')

/-- The shortest decimal text that reads back as the number, without an exponent. -/
def text : Binary64 → String
  | .infinite => "inf"
  | .finite mantissa exponent =>
    let (digits, power) := shortest mantissa exponent
    if digits = 0 then "0" else positional digits power

end Binary64

end Bundler.Number
