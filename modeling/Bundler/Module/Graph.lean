import Bundler.Module.Id

/-!
The module graph of a build: an ordered map from ids to modules, in the order of discovery, with
the entry that starts the bundle. A module that is stored again keeps its place.
-/

namespace Bundler

/-- A module with its rewritten source. -/
structure Module where
  id : ModuleId
  /-- The file the source was read from. -/
  path : Path
  source : String
  /-- What the module requires, in the order of discovery, with repetitions. -/
  dependencies : List ModuleId
  deriving DecidableEq, Repr, Inhabited

/-- Modules by id, in the order of their first insertion, and the entry. -/
structure ModuleGraph where
  entry : ModuleId
  modules : List Module
  deriving DecidableEq, Repr

/-- Why a graph cannot be bundled. -/
inductive IncompleteGraph where
  | entry (id : ModuleId)
  | dependency (importer missing : ModuleId)
  deriving DecidableEq, Repr

namespace IncompleteGraph

def message : IncompleteGraph → String
  | entry id => s!"Entry module {id} is missing from the module graph"
  | dependency importer missing =>
    s!"Module {importer} depends on {missing}, which is missing from the module graph"

end IncompleteGraph

namespace ModuleGraph

def empty (entry : ModuleId) : ModuleGraph := ⟨entry, []⟩

def ids (graph : ModuleGraph) : List ModuleId := graph.modules.map Module.id

def size (graph : ModuleGraph) : Nat := graph.modules.length

def find? (graph : ModuleGraph) (id : ModuleId) : Option Module :=
  graph.modules.find? (·.id = id)

def contains (graph : ModuleGraph) (id : ModuleId) : Bool := graph.modules.any (·.id = id)

/-- The modules with `m` in the place of the one with its id, or at the end if there is none. -/
def place (m : Module) : List Module → List Module
  | [] => [m]
  | n :: rest => if n.id = m.id then m :: rest else n :: place m rest

/-- The graph with `m` under its id. -/
def insert (graph : ModuleGraph) (m : Module) : ModuleGraph :=
  { graph with modules := place m graph.modules }

/-- The graph with `m` under its id, and the module that was there before. -/
def replace (graph : ModuleGraph) (m : Module) : Option Module × ModuleGraph := (graph.find? m.id, graph.insert m)

/-- The first dependency of `m` that is not stored. -/
def missingOf? (graph : ModuleGraph) (m : Module) : Option ModuleId :=
  m.dependencies.find? (!graph.contains ·)

/-- Whether the entry and all dependencies of the stored modules are stored. -/
def validate (graph : ModuleGraph) : Except IncompleteGraph Unit :=
  if graph.contains graph.entry then
    match graph.modules.findSome? (fun m => (graph.missingOf? m).map (m.id, ·)) with
    | some (importer, missing) => .error (.dependency importer missing)
    | none => .ok ()
  else .error (.entry graph.entry)

end ModuleGraph

end Bundler
