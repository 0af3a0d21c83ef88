import Bundler.Config.Basic
import Bundler.Text.Debug
import Bundler.Toml.Reader

/-!
Configurations as TOML documents. A document is a configuration if it has the right shape. Of several
faults the one under the smallest key is told, and missing keys are told last.
-/

namespace Bundler

namespace Config

/-- Why a document has not the shape of a configuration. -/
inductive ShapeError where
  | invalidType (found expected : String)
  | invalidLength (length : Nat) (expected : String)
  | unknownField (name : String) (expected : List String)
  | missingField (name : String)
  | integerOverflow
  | realOverflow
  deriving DecidableEq, Repr

namespace ShapeError

/-- Names between backquotes, of which one is expected. -/
def oneOf (names : List String) : String :=
  match names.map fun name => "`" ++ name ++ "`" with
  | [] => "there are no fields"
  | [name] => "expected " ++ name
  | [first, second] => "expected " ++ first ++ " or " ++ second
  | names => "expected one of " ++ ", ".intercalate names

def message : ShapeError → String
  | invalidType found expected => s!"invalid type: {found}, expected {expected}"
  | invalidLength length expected => s!"invalid length {length}, expected {expected}"
  | unknownField name expected => s!"unknown field `{name}`, " ++ oneOf expected
  | missingField name => s!"missing field `{name}`"
  | integerOverflow => "integer number overflowed"
  | realOverflow => "floating-point number overflowed"

end ShapeError

abbrev Decode (α : Type) := Except ShapeError α

/-- The text of a number with a fraction, with a point in it. -/
def realText : Toml.Real → Option String
  | .infinite negative => some (if negative then "-inf" else "inf")
  | .notANumber => some "NaN"
  | .finite _ .infinite => none
  | .finite negative value =>
    let text := value.text
    some ((if negative then "-" else "") ++ text ++ if text.contains '.' then "" else ".0")

/-- The text of a whole number, with its width where it has more than 64 bits. -/
def integerText (n : Int) : Option String :=
  let quoted := s!"integer `{n}`"
  let bound (bits : Nat) : Int := (Nat.pow 2 bits : Nat)
  if -bound 63 ≤ n ∧ n < bound 64 then some quoted
  else if -bound 127 ≤ n ∧ n < bound 127 then some (quoted ++ " as i128")
  else if 0 ≤ n ∧ n < bound 128 then some (quoted ++ " as u128")
  else none

/-- The failure of a value where something else is expected. -/
def mismatch (expected : String) : Toml.Value → ShapeError
  | .string text => .invalidType ("string " ++ Text.Debug.quote text) expected
  | .integer n => match integerText n with
    | some text => .invalidType text expected
    | none => .integerOverflow
  | .real r => match realText r with
    | some text => .invalidType s!"floating point `{text}`" expected
    | none => .realOverflow
  | .boolean b => .invalidType s!"boolean `{b}`" expected
  | .array _ => .invalidType "sequence" expected
  | .datetime | .table _ => .invalidType "map" expected

def decodeText (expected : String) : Toml.Value → Decode String
  | .string text => .ok text
  | value => .error (mismatch expected value)

def decodeList {α : Type} (decode : Toml.Value → Decode α) : Toml.Value → Decode (List α)
  | .array values => values.mapM decode
  | value => .error (mismatch "a sequence" value)

/-- A field of a record under its name, and what a value for it makes of the record. -/
abbrev Field (ρ : Type) := String × (ρ → Toml.Value → Decode ρ)

/-- The record with the values of some entries, the smallest key first. -/
def decodeEntries {ρ : Type} (fields : List (Field ρ)) (start : ρ) (entries : List (String × Toml.Value)) :
    Decode ρ :=
  (entries.mergeSort fun a b => a.1 ≤ b.1).foldlM (fun record (key, value) =>
    match fields.lookup key with
    | some assign => assign record value
    | none => .error (.unknownField key (fields.map (·.1)))) start

/-- The record with some values for its first fields. -/
def decodeElements {ρ : Type} (fields : List (Field ρ)) (start : ρ) (values : List Toml.Value) : Decode ρ :=
  (fields.zip values).foldlM (fun record (field, value) => field.2 record value) start

/-- The name of the one field of a date, where fields are asked for. -/
def datetimeField : String := "$__toml_private_datetime"

/-- A record and the number of values, where it is written as a list of them. -/
def decodeRecord {ρ : Type} (name : String) (fields : List (Field ρ)) (start : ρ) :
    Toml.Value → Decode (ρ × Option Nat)
  | .table entries => (·, none) <$> decodeEntries fields start entries
  | .datetime => .error (.unknownField datetimeField (fields.map (·.1)))
  | .array values => (·, some values.length) <$> decodeElements fields start values
  | value => .error (mismatch s!"struct {name}" value)

def outputFields : List (Field OutputConfig) :=
  [("path", fun output value => return { output with path := ← decodeText "path string" value }),
   ("filename", fun output value => return { output with filename := ← decodeText "a string" value })]

def decodeOutput (value : Toml.Value) : Decode OutputConfig :=
  (·.1) <$> decodeRecord "OutputConfig" outputFields {} value

/-- What is known of a rule so far. -/
structure RuleParts where
  test : Option String := none
  transforms : Option (List String) := none

def ruleFields : List (Field RuleParts) :=
  [("test", fun rule value => return { rule with test := some (← decodeText "a string" value) }),
   ("use", fun rule value => return { rule with transforms := some (← decodeList (decodeText "a string") value) })]

def decodeRule (value : Toml.Value) : Decode RuleConfig := do
  let (parts, written) ← decodeRecord "RuleConfig" ruleFields {} value
  match parts.test, parts.transforms, written with
  | some test, some transforms, _ => return ⟨test, transforms⟩
  | _, _, some length => .error (.invalidLength length "struct RuleConfig with 2 elements")
  | none, _, none => .error (.missingField "test")
  | some _, none, none => .error (.missingField "use")

/-- The configuration so far, and whether it has an entry. -/
def fields : List (Field (Config × Bool)) :=
  [("entry", fun (config, _) value => return ({ config with entry := ← decodeText "path string" value }, true)),
   ("output", fun (config, found) value => return ({ config with output := ← decodeOutput value }, found)),
   ("extension", fun (config, found) value =>
      return ({ config with extension := ← decodeText "a string" value }, found)),
   ("rules", fun (config, found) value => return ({ config with rules := ← decodeList decodeRule value }, found)),
   ("plugins", fun (config, found) value =>
      return ({ config with plugins := ← decodeList (decodeText "a string") value }, found))]

def decode (root : Path) (entries : List (String × Toml.Value)) : Decode Config := do
  let (config, found) ← decodeEntries fields ({ root, entry := "" }, false) entries
  if found then return config else .error (.missingField "entry")

/-- Why a text is no configuration. -/
inductive Fault where
  | notToml
  | shape (e : ShapeError)
  | rejected (e : Rejection)
  deriving DecidableEq, Repr

namespace Fault

def message : Fault → String
  | notToml => "not a TOML document"
  | shape e => e.message
  | rejected e => e.message

end Fault

/-- The configuration that a text gives for the project at `root`. -/
def ofText (text : String) (root : Path) : Except Fault Config :=
  match Toml.parse? text with
  | none => .error .notToml
  | some entries =>
    match decode root entries with
    | .error e => .error (.shape e)
    | .ok config => config.validate.mapError .rejected

end Config

end Bundler
