import Bundler.Transform.Basic

/-!
The transforms that a configuration can name.
-/

namespace Bundler

/-- Transforms, no two under one name. -/
structure Registry where
  transforms : List Transform

/-- A name without a transform, and the names that have one. -/
structure UnknownTransform where
  name : String
  available : List String
  deriving DecidableEq, Repr

namespace UnknownTransform

def message (e : UnknownTransform) : String :=
  s!"Unknown transform '{e.name}' (available: " ++ ", ".intercalate e.available ++ ")"

end UnknownTransform

namespace Registry

def empty : Registry := ⟨[]⟩

/-- The transforms that are always there. -/
def builtin : Registry := ⟨[.stripBom, .json, .text]⟩

def find? (registry : Registry) (name : String) : Option Transform :=
  registry.transforms.find? (·.name = name)

/-- The registry with a transform in the place of the one with its name. -/
def register (registry : Registry) (transform : Transform) : Registry :=
  ⟨transform :: registry.transforms.filter (·.name ≠ transform.name)⟩

def names (registry : Registry) : List String :=
  (registry.transforms.map Transform.name).mergeSort (· ≤ ·)

def get (registry : Registry) (name : String) : Except UnknownTransform Transform :=
  match registry.find? name with
  | some transform => .ok transform
  | none => .error ⟨name, registry.names⟩

/-- The transforms of some names, in their order. -/
def chain (registry : Registry) (names : List String) : Except UnknownTransform (List Transform) :=
  names.mapM registry.get

end Registry

end Bundler
