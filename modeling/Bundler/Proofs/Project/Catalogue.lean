import Bundler.Build.Project
import Bundler.Proofs.Host.Reading
import Bundler.Proofs.Search.Run

/-!
The modules of a project in a world. Building a module reads one file and logs; the module depends on
the text of the file alone, so that a search in the project follows the catalogue of its modules.
-/

namespace Bundler

variable {σ : Type} [Host (StateM σ)] {files : Path → Except FileError String}
  {keeps : List Path → σ → Prop} {paths : List Path} {w : σ}

/-- The source at a path, from what reading the file has given. -/
def Rule.sourceOf (rules : List Rule) (path : Path) : Except FileError String → Except LoadError String
  | .error e => .error (.unreadable path e)
  | .ok read => (applyAll rules read path).result.mapError .transform

theorem Rule.load_run (stable : Host.Stable files keeps) (rules : List Rule) (path : Path)
    (here : keeps paths w) :
    ((load rules path : StateM σ _).run w).1 = sourceOf rules path (files path) ∧
      keeps (paths ++ [path]) ((load rules path : StateM σ _).run w).2 := by
  obtain ⟨found, kept⟩ := stable.read path here
  cases read : files path with
  | error e =>
    have asks : (Host.readText path : StateM σ _).run w = (.error e, _) := Prod.ext (found.trans read) rfl
    rw [load, run_bind_of asks]
    exact ⟨rfl, kept⟩
  | ok text =>
    have asks : (Host.readText path : StateM σ _).run w = (.ok text, _) := Prod.ext (found.trans read) rfl
    rw [load, run_bind_of asks]
    exact ⟨rfl, stable.log_all kept _ _⟩

namespace Project

variable {project : Project} {world : World} {id : ModuleId}

/-- The module of an id, from its source. -/
def moduleOf (project : Project) (id : ModuleId) : Except LoadError String → Except ModuleError Module
  | .error e => .error (.load e)
  | .ok source => ((rewrite project.extension id source).result.mapError .rewrite).map fun rewritten =>
    ⟨id, id.toPath project.root, rewritten.code, rewritten.dependencies⟩

/-- What building the module of an id comes to where the files are as given. -/
def answerIn (project : Project) (files : Path → Except FileError String) (id : ModuleId) :
    Except ModuleError Module :=
  project.moduleOf id (Rule.sourceOf project.rules (id.toPath project.root) (files (id.toPath project.root)))

/-- Building a module gives what the text of its file makes, reads that file, and otherwise only logs. -/
theorem build_run (stable : Host.Stable files keeps) (project : Project) (id : ModuleId)
    (here : keeps paths w) :
    ((project.build id : StateM σ _).run w).1 = project.answerIn files id ∧
      keeps (paths ++ [id.toPath project.root]) ((project.build id : StateM σ _).run w).2 := by
  obtain ⟨found, kept⟩ := Rule.load_run stable project.rules (id.toPath project.root) here
  cases load : Rule.sourceOf project.rules (id.toPath project.root) (files (id.toPath project.root)) with
  | error e =>
    have asks : (Rule.load project.rules (id.toPath project.root) : StateM σ _).run w = (.error e, _) :=
      Prod.ext (found.trans load) rfl
    rw [build, run_bind_of asks, answerIn, load]
    exact ⟨rfl, kept⟩
  | ok source =>
    have asks : (Rule.load project.rules (id.toPath project.root) : StateM σ _).run w = (.ok source, _) :=
      Prod.ext (found.trans load) rfl
    rw [build, run_bind_of asks, answerIn, load]
    simp only [moduleOf]
    generalize rewrite project.extension id source = rewriting
    obtain ⟨result, resolved⟩ := rewriting
    cases result with
    | error e => exact ⟨rfl, stable.log_all kept _ _⟩
    | ok rewritten => exact ⟨rfl, stable.log _ (stable.log_all kept _ _)⟩

theorem build_world (project : Project) (world : World) (id : ModuleId) :
    ((project.build id : Session _).run world).1 = project.answerIn world.files id :=
  (build_run (Session.stable world) project id (Session.kept world [])).1

theorem answerIn_bears {files : Path → Except FileError String} {built : Module}
    (answered : project.answerIn files id = .ok built) : built.id = id := by
  unfold answerIn at answered
  cases source : Rule.sourceOf project.rules (id.toPath project.root) (files (id.toPath project.root)) with
  | error e => rw [source] at answered; cases answered
  | ok source' =>
    rw [source, moduleOf] at answered
    cases rewrites : (rewrite project.extension id source').result with
    | error e => rw [rewrites] at answered; cases answered
    | ok rewritten => rw [rewrites] at answered; cases answered; rfl

/-- The modules of a project as building them in a world gives them. -/
def catalogue (project : Project) (world : World) : Search.Catalogue ModuleError where
  answer id := ((project.build id : Session _).run world).1
  bears {id _} answered := answerIn_bears ((build_world project world id).symm.trans answered)

theorem answer_eq (project : Project) (world : World) (id : ModuleId) :
    (project.catalogue world).answer id = ((project.build id : Session _).run world).1 := by
  rw [catalogue]

theorem catalogue_answer (id : ModuleId) :
    (project.catalogue world).answer id = project.answerIn world.files id := by
  rw [answer_eq, build_world]

/-- Where the files stay those of a world, a search in a project follows the catalogue of the world. -/
theorem follows (stable : Host.Stable world.files keeps) (project : Project) :
    Search.Follows (project.builder : Builder (StateM σ) ModuleError) (project.catalogue world)
      (fun ids => keeps (ids.map (·.toPath project.root))) where
  build id here := by
    obtain ⟨answered, kept⟩ := build_run stable project id here
    refine ⟨answered.trans (catalogue_answer id).symm, ?_⟩
    rw [List.map_append]
    exact kept
  tell note here := by
    cases note with
    | finished id => exact stable.log _ here
    | skipped id => exact stable.log _ here

/-- What a search comes to, as the graph of a project; no result means that it takes more steps. -/
def outcome : Option (Except (SearchError ModuleError) ModuleGraph) → Except GraphError ModuleGraph
  | none => .error .endless
  | some (.error e) => .error (.search e)
  | some (.ok graph) => .ok graph

theorem outcome_injective : Function.Injective outcome := by
  rintro (_ | _ | _) (_ | _ | _) same <;> cases same <;> rfl

/-- The graph of a project, by some way to search from the id of its entry. -/
def graphBy {m : Type → Type} [Monad m] [Host m]
    (search : ModuleId → m (Option (Except (SearchError ModuleError) ModuleGraph))) (project : Project)
    (entry : Path) : m (Except GraphError ModuleGraph) := do
  match ModuleId.fromPath entry project.root with
  | .error e => return .error (.outside e)
  | .ok id => do
    Host.log ⟨.debug, .search, s!"Building module graph from entry {id}"⟩
    match ← search id with
    | none => return .error .endless
    | some (.error e) => return .error (.search e)
    | some (.ok graph) =>
      Host.log ⟨.debug, .search, s!"Module graph complete with {graph.size} modules"⟩
      return .ok graph

theorem graphWithin_eq {m : Type → Type} [Monad m] [Host m] (steps : Nat) (project : Project) (entry : Path) :
    (project.graphWithin steps entry : m _) =
      project.graphBy (fun id => Search.run project.builder steps (.start id)) entry := by
  unfold graphWithin graphBy
  cases ModuleId.fromPath entry project.root <;> rfl

/-- What a search has found, as the graph of a project, and the state once that is in the log. -/
def reported (found : Option (Except (SearchError ModuleError) ModuleGraph) × σ) : Except GraphError ModuleGraph × σ :=
  (outcome found.1, match found.1 with
    | some (.ok graph) =>
      ((Host.log ⟨.debug, .search, s!"Module graph complete with {graph.size} modules"⟩ : StateM σ Unit).run found.2).2
    | _ => found.2)

theorem reported_keeps (stable : Host.Stable files keeps)
    {found : Option (Except (SearchError ModuleError) ModuleGraph) × σ} (kept : keeps paths found.2) :
    keeps paths (reported found).2 := by
  obtain ⟨_ | _ | graph, v⟩ := found
  · exact kept
  · exact kept
  · exact stable.log _ kept

/-- The state in which a search starts from an id, once that is in the log. -/
def begun (id : ModuleId) (w : σ) : σ :=
  ((Host.log ⟨.debug, .search, s!"Building module graph from entry {id}"⟩ : StateM σ Unit).run w).2

/-- Around the search from its entry, the graph of a project takes only lines of the log. -/
theorem graphBy_begun {entry : Path} (named : ModuleId.fromPath entry project.root = .ok id)
    (search : ModuleId → StateM σ (Option (Except (SearchError ModuleError) ModuleGraph))) :
    (project.graphBy search entry).run w = reported ((search id).run (begun id w)) := by
  have logs : (Host.log ⟨.debug, .search, s!"Building module graph from entry {id}"⟩ : StateM σ Unit).run w =
    ((), begun id w) := rfl
  generalize begun id w = v at logs ⊢
  rcases ran : (search id).run v with ⟨result, u⟩
  unfold graphBy
  rw [named]
  simp only
  rw [run_bind_of logs, run_bind_of ran]
  rcases result with _ | _ | graph <;> rfl

theorem graphBy_run {entry : Path} (project : Project) (stable : Host.Stable files keeps) (here : keeps paths w)
    (named : ModuleId.fromPath entry project.root = .ok id) : ∃ v, keeps paths v ∧
      ∀ search : ModuleId → StateM σ (Option (Except (SearchError ModuleError) ModuleGraph)),
        (project.graphBy search entry).run w = reported ((search id).run v) :=
  ⟨begun id w, stable.log _ here, graphBy_begun named⟩

end Project

end Bundler
