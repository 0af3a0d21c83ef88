import Bundler.Proofs.Project.Files
import Bundler.Proofs.Search.Alike

/-!
Builds of two projects side by side. A build depends on the sources that its ids load to and on nothing else: neither on
where the project stands nor on files that are not reached.
-/

namespace Bundler.Project

open Search

variable {project project' : Project} {world world' : World} {entry entry' : Path} {id : ModuleId}

/-- Whether the source of an id is the same text for two builds, or cannot be had in either. -/
def LoadAlike (project project' : Project) (world world' : World) (id : ModuleId) : Prop :=
  ((Rule.load project.rules (id.toPath project.root) : Session _).run world).1.toOption =
    ((Rule.load project'.rules (id.toPath project'.root) : Session _).run world').1.toOption

/-- Ends of two builds that differ at most in where modules come from and in why one of them cannot be built. -/
inductive SameEnd : Except GraphError ModuleGraph → Except GraphError ModuleGraph → Prop
  | endless : SameEnd (.error .endless) (.error .endless)
  | cycle chain : SameEnd (.error (.search (.cycle chain))) (.error (.search (.cycle chain)))
  | unbuilt id importer cause cause' :
      SameEnd (.error (.search (.unbuilt id importer cause))) (.error (.search (.unbuilt id importer cause')))
  | found {graph graph'} : graph.entry = graph'.entry → graph.ids = graph'.ids →
      graph.modules.map Module.source = graph'.modules.map Module.source →
      graph.modules.map Module.dependencies = graph'.modules.map Module.dependencies →
      Bundle.render graph = Bundle.render graph' → SameEnd (.ok graph) (.ok graph')

theorem load_world (rules : List Rule) (path : Path) (world : World) :
    ((Rule.load rules path : Session _).run world).1 = Rule.sourceOf rules path (world.files path) :=
  (Rule.load_run (Session.stable world) rules path (Session.kept world [])).1

/-- From one source, two projects make modules that are alike. -/
theorem moduleOf_alike (extension : project.extension = project'.extension) (id : ModuleId) (source : String) :
    AnswersAlike (project.moduleOf id (.ok source)) (project'.moduleOf id (.ok source)) := by
  rw [moduleOf, moduleOf, extension]
  cases (rewrite project'.extension id source).result with
  | error e => exact .failed
  | ok rewritten => exact .built ⟨rfl, rfl, rfl⟩

theorem answers_alike (extension : project.extension = project'.extension)
    (loads : LoadAlike project project' world world' id) :
    AnswersAlike ((project.catalogue world).answer id) ((project'.catalogue world').answer id) := by
  rw [LoadAlike, load_world, load_world] at loads
  rw [catalogue_answer, catalogue_answer, answerIn, answerIn]
  generalize Rule.sourceOf project.rules (id.toPath project.root) (world.files (id.toPath project.root)) = one at loads ⊢
  generalize Rule.sourceOf project'.rules (id.toPath project'.root) (world'.files (id.toPath project'.root)) = other
    at loads ⊢
  cases one with
  | error e =>
    cases other with
    | error e' => exact .failed
    | ok source' => cases loads
  | ok source =>
    cases other with
    | error e' => cases loads
    | ok source' =>
      obtain rfl : source = source' := Option.some.inj loads
      exact moduleOf_alike extension id source

theorem sameEnd_outcome {found found' : Option (Except (SearchError ModuleError) ModuleGraph)}
    (alike : Option.Rel EndsAlike found found') : SameEnd (outcome found) (outcome found') := by
  cases alike with
  | none => exact .endless
  | some ends =>
    cases ends with
    | found graphs =>
      exact .found graphs.entry graphs.ids_eq (graphs.map_eq Module.Alike.source) (graphs.map_eq Module.Alike.dependencies)
        graphs.render_eq
    | cycle chain => exact .cycle chain
    | unbuilt id importer cause cause' => exact .unbuilt id importer cause cause'

/-- Searches from one id come to ends that are alike where the catalogues answer alike on what the first one reaches. -/
theorem graphWithin_alike (named : ModuleId.fromPath entry project.root = .ok id)
    (named' : ModuleId.fromPath entry' project'.root = .ok id)
    (agree : Agree (project.catalogue world) (project'.catalogue world') id) (steps : Nat) :
    ∃ found found', ((project.graphWithin steps entry : Session _).run world).1 = outcome found ∧
      ((project'.graphWithin steps entry' : Session _).run world').1 = outcome found' ∧ Option.Rel EndsAlike found found' := by
  obtain ⟨v, kept, runs⟩ := graphWithin_run project (Session.stable world) (Session.kept world []) named
  obtain ⟨v', kept', runs'⟩ := graphWithin_run project' (Session.stable world') (Session.kept world' []) named'
  have started : (start id).Alike (start id) := ⟨⟨rfl, .nil⟩, rfl, rfl⟩
  rw [runs, runs']
  exact ⟨_, _, rfl, rfl, (follows (Session.stable world) project).run_alike steps (follows (Session.stable world') project')
    agree (.start _ id) started kept kept'⟩

/-- Builds from one id come to the same end, or take more steps alike, where the ids that the first one reaches load to
the same sources in both. -/
theorem graphWithin_sameEnd (extension : project.extension = project'.extension)
    (named : ModuleId.fromPath entry project.root = .ok id) (named' : ModuleId.fromPath entry' project'.root = .ok id)
    (loads : ∀ other, (project.catalogue world).Reaches id other → LoadAlike project project' world world' other)
    (steps : Nat) : SameEnd ((project.graphWithin steps entry : Session _).run world).1
      ((project'.graphWithin steps entry' : Session _).run world').1 := by
  have agree : Agree (project.catalogue world) (project'.catalogue world') id := fun other path =>
    answers_alike extension (loads other path)
  obtain ⟨found, found', runs, runs', alike⟩ := graphWithin_alike named named' agree steps
  rw [runs, runs']
  exact sameEnd_outcome alike

/-- A project has the same graph in another world where the files of its modules are the same. -/
theorem graphWithin_of_files {steps : Nat} {graph : ModuleGraph}
    (found : ((project.graphWithin steps entry : Session _).run world).1 = .ok graph)
    (same : ∀ built ∈ graph.modules, world'.files built.path = world.files built.path) :
    ((project.graphWithin steps entry : Session _).run world').1 = .ok graph := by
  obtain ⟨id, named, yields⟩ := graphWithin_yields (.ok graph) found
  obtain ⟨_, _, held, ends⟩ := yields.reached
  cases ends
  obtain rfl : graph.entry = id := held.entry_eq
  have agree : Agree (project.catalogue world) (project.catalogue world') graph.entry := by
    intro other path
    obtain ⟨built, member, rfl⟩ := List.mem_map.mp (held.mem_ids_iff.mpr path)
    refine answers_alike rfl ?_
    rw [LoadAlike, load_world, load_world, ← (modules_of_graph found member).2.1, same built member]
  obtain ⟨ended, ended', runs, runs', alike⟩ := graphWithin_alike named named agree steps
  have ended_eq : ended = some (.ok graph) := outcome_injective (runs.symm.trans found)
  rw [ended_eq] at alike
  obtain ⟨graph', rfl, graphs⟩ := of_found alike
  have found' : ((project.graphWithin steps entry : Session _).run world').1 = .ok graph' := runs'
  have equal : graph = graph' := graphs.eq_of_files (fun id => id.toPath project.root)
    (fun _ member => (modules_of_graph found member).2.1) fun _ member => (modules_of_graph found' member).2.1
  rw [equal]
  exact found'

/-- The diamond in another directory, beside a module that nothing requires. A mark stands for the text of one module. -/
def moved : World where
  tree := ⟨[(["q"], .directory), (["q", "r"], .directory),
    (["q", "r", "a.js"], .file (.text "require('./b'); require('./c')")),
    (["q", "r", "b.js"], .file (.text "require('./d')")), (["q", "r", "c.js"], .file (.text "?")),
    (["q", "r", "d.js"], .file (.text "")), (["q", "r", "e.js"], .file (.text "require('./a')"))]⟩
  current := none

/-- The project there, with a rule that puts the text in the place of the mark. -/
def filled : Project where
  root := ⟨"/q/r"⟩
  rules := [⟨"", .nothing, [.custom "fill" fun source _ => .ok (if source = "?" then "require('./d')" else source)]⟩]
  extension := "js"

theorem graphWithin_sameEnd_moved :
    (∀ other, (plain.catalogue diamond).Reaches ⟨"./a.js"⟩ other → LoadAlike plain filled diamond moved other) ∧
      ∀ steps, SameEnd ((plain.graphWithin steps ⟨"/p/a.js"⟩ : Session _).run diamond).1
        ((filled.graphWithin steps ⟨"/q/r/a.js"⟩ : Session _).run moved).1 := by
  have named : ModuleId.fromPath ⟨"/p/a.js"⟩ plain.root = .ok ⟨"./a.js"⟩ := rfl
  have named' : ModuleId.fromPath ⟨"/q/r/a.js"⟩ filled.root = .ok ⟨"./a.js"⟩ := rfl
  have loads (other : ModuleId) (path : (plain.catalogue diamond).Reaches ⟨"./a.js"⟩ other) :
      LoadAlike plain filled diamond moved other := by
    obtain ⟨graph, found⟩ := diamond_graph
    have ids := diamond_ids
    rw [found] at ids
    have yields : Yields (plain.catalogue diamond) (.start ⟨"./a.js"⟩) (.ok graph) := (graphWithin_iff named).mp ⟨10, found⟩
    obtain ⟨_, _, held, ends⟩ := yields.reached
    cases ends
    have member : other ∈ graph.ids := held.mem_ids_iff.mpr (held.entry_eq ▸ path)
    rw [show graph.ids = _ from Option.some.inj ids] at member
    simp only [List.mem_cons, List.not_mem_nil, or_false] at member
    unfold LoadAlike
    rcases member with rfl | rfl | rfl | rfl <;> decide +kernel
  exact ⟨loads, graphWithin_sameEnd rfl named named' loads⟩

end Bundler.Project
