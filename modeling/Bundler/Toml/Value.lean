import Bundler.Number.Binary64

/-!
The values of TOML documents, and how a document puts its tables together. A table can be written in
parts, but not any two parts go together: `Node` keeps how a table came to be until the document has
ended.
-/

namespace Bundler.Toml

/-- A number with a fraction or an exponent, as it was written. -/
inductive Real where
  | finite (negative : Bool) (value : Number.Binary64)
  | infinite (negative : Bool)
  | notANumber
  deriving DecidableEq, Repr

inductive Value where
  | string (text : String)
  | integer (value : Int)
  | real (value : Real)
  | boolean (value : Bool)
  /-- A date, a time or both. -/
  | datetime
  | array (elements : List Value)
  | table (entries : List (String × Value))
  deriving Repr

/-- How a table came to be. -/
inductive Origin where
  /-- From a header, or the document itself. -/
  | header
  /-- From a longer header. -/
  | implied
  /-- From the dots of a key. -/
  | dotted
  deriving DecidableEq, Repr

/-- What stands under a key while a document is read. -/
inductive Node where
  | leaf (value : Value)
  | table (origin : Origin) (entries : List (String × Node))
  /-- The tables of a repeated header, the last one first. -/
  | tables (elements : List (List (String × Node)))
  deriving Repr

/-- The entries of a table that is being read. -/
abbrev Entries := List (String × Node)

namespace Node

mutual

def toValue : Node → Value
  | leaf value => value
  | table _ entries => .table (entriesToValues entries)
  | tables elements => .array (tablesToValues elements).reverse

def entriesToValues : List (String × Node) → List (String × Value)
  | [] => []
  | (key, node) :: rest => (key, node.toValue) :: entriesToValues rest

def tablesToValues : List (List (String × Node)) → List Value
  | [] => []
  | entries :: rest => .table (entriesToValues entries) :: tablesToValues rest

end

end Node

namespace Entries

def find? (entries : Entries) (key : String) : Option Node := entries.lookup key

/-- The entries with a node for a key that is there or new. -/
def put (entries : Entries) (key : String) (node : Node) : Entries :=
  if entries.any (·.1 = key) then entries.map fun entry => if entry.1 = key then (key, node) else entry
  else entries ++ [(key, node)]

/-- The entries with a value under a dotted key, given as the keys before the last and the last. The
tables on the way must come from dots too, and there may be nothing under the key. -/
def assign (origin : Origin) (dots : Bool) (entries : Entries) : List String → String → Value → Option Entries
  | [], key, value =>
    if decide (origin = .dotted) != dots || (entries.find? key).isSome then none
    else some (entries ++ [(key, .leaf value)])
  | first :: path, key, value =>
    match entries.find? first with
    | none => do
      let inner ← assign .dotted true [] path key value
      entries.put first (.table .dotted inner)
    | some (.table .header _) | some (.leaf _) | some (.tables []) => none
    | some (.table origin inner) => do
      let inner ← assign origin true inner path key value
      entries.put first (.table origin inner)
    | some (.tables (last :: others)) => do
      let last ← assign .header true last path key value
      entries.put first (.tables (last :: others))

/-- The entries with the table of a header that a change is made to. The tables on the way are there
or implied. -/
def enter (change : Entries → Option Entries) (entries : Entries) : List String → Option Entries
  | [] => change entries
  | first :: path =>
    match entries.find? first with
    | none => do
      let inner ← enter change [] path
      entries.put first (.table .implied inner)
    | some (.leaf _) | some (.tables []) => none
    | some (.table origin inner) => do
      let inner ← enter change inner path
      entries.put first (.table origin inner)
    | some (.tables (last :: others)) => do
      let last ← enter change last path
      entries.put first (.tables (last :: others))

/-- The entries with a table of its own under a key. -/
def openTable (key : String) (entries : Entries) : Option Entries :=
  match entries.find? key with
  | none => some (entries.put key (.table .header []))
  | some (.table .implied inner) => some (entries.put key (.table .header inner))
  | some _ => none

/-- The entries with one more table in the list under a key. -/
def appendTable (key : String) (entries : Entries) : Option Entries :=
  match entries.find? key with
  | none => some (entries.put key (.tables [[]]))
  | some (.tables elements) => some (entries.put key (.tables ([] :: elements)))
  | some _ => none

end Entries

end Bundler.Toml
