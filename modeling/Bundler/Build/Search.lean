import Bundler.Module.Graph

/-!
The search for the modules of a build. From the entry on, each module is built when it is first met
and its dependencies are met next, the first one first. The modules whose dependencies are being met
form a chain from the entry; meeting one of them again is a cycle. Pending visits are a list, so that
no chain is too long.
-/

namespace Bundler

/-- What is still to be done. -/
inductive Visit where
  /-- Meet a module, which its importer requires; the entry has none. -/
  | enter (id : ModuleId) (importer : Option ModuleId)
  /-- The dependencies of the innermost active module have all been met. -/
  | leave
  deriving DecidableEq, Repr

/-- The state of a search. -/
structure Search where
  graph : ModuleGraph
  /-- The modules whose dependencies are being met, the innermost first. -/
  active : List ModuleId
  /-- What is to be done, the next first. -/
  pending : List Visit

/-- Why a search fails, where modules fail with `ε`. -/
inductive SearchError (ε : Type) where
  /-- A chain of dependencies from a module back to it. -/
  | cycle (chain : List ModuleId)
  | unbuilt (id : ModuleId) (importer : Option ModuleId) (cause : ε)
  deriving DecidableEq, Repr

/-- What a search tells while it runs. -/
inductive SearchNote where
  | finished (id : ModuleId)
  | skipped (id : ModuleId)
  deriving DecidableEq, Repr

/-- What a search needs: a way to build modules, and someone to tell. -/
structure Builder (m : Type → Type) (ε : Type) where
  build : ModuleId → m (Except ε Module)
  tell : SearchNote → m Unit

namespace Search

def start (entry : ModuleId) : Search := ⟨.empty entry, [], [.enter entry none]⟩

/-- The chain of active modules from a module to it. -/
def chainTo (active : List ModuleId) (id : ModuleId) : List ModuleId :=
  id :: (active.takeWhile (· ≠ id)).reverse ++ [id]

/-- The search with a module that has just been built. -/
def adopt (search : Search) (pending : List Visit) (built : Module) (id : ModuleId) : Search where
  graph := search.graph.insert built
  active := id :: search.active
  pending := built.dependencies.map (.enter · (some id)) ++ .leave :: pending

variable {m : Type → Type} [Monad m] {ε : Type}

/-- One visit, the first of those pending. -/
def visit (builder : Builder m ε) (search : Search) (pending : List Visit) :
    Visit → m (Except (SearchError ε) Search)
  | .leave => do
    search.active.head?.forM fun id => builder.tell (.finished id)
    return .ok { search with active := search.active.tail, pending }
  | .enter id importer => do
    if search.active.contains id then return .error (.cycle (chainTo search.active id))
    if search.graph.contains id then
      builder.tell (.skipped id)
      return .ok { search with pending }
    match ← builder.build id with
    | .error cause => return .error (.unbuilt id importer cause)
    | .ok built => return .ok (search.adopt pending built id)

/-- So many steps of a search, or those up to its end. No result means that there are more. -/
def run (builder : Builder m ε) : Nat → Search → m (Option (Except (SearchError ε) ModuleGraph))
  | 0, _ => return none
  | steps + 1, search => do
    match search.pending with
    | [] => return some (.ok search.graph)
    | next :: pending =>
      match ← search.visit builder pending next with
      | .error e => return some (.error e)
      | .ok search => run builder steps search

end Search

end Bundler
