import Bundler.Proofs.Project.Catalogue
import Bundler.Proofs.Search.Outcome
import Bundler.Proofs.Search.Recursion

/-!
The graph of a project: when there is one and what is in it, what a cycle says, and that plain
recursion comes to the same with the same work. A build that has no end is told apart by its steps:
some number of them is enough, or none is.
-/

namespace Bundler.Project

open Relation Search

variable {σ : Type} [Host (StateM σ)] {keeps : List Path → σ → Prop} {w : σ}
  {project : Project} {world : World} {entry : Path} {id : ModuleId} {steps : Nat}
  {result : Except (SearchError ModuleError) ModuleGraph}

theorem graphWithin_run (project : Project) (stable : Host.Stable world.files keeps) (here : keeps [] w)
    (named : ModuleId.fromPath entry project.root = .ok id) : ∃ v, keeps [] v ∧
      ∀ steps, (project.graphWithin steps entry : StateM σ _).run w =
        reported ((Search.run (m := StateM σ) project.builder steps (.start id)).run v) := by
  obtain ⟨v, kept, runs⟩ := graphBy_run project stable here named
  exact ⟨v, kept, fun steps => by rw [graphWithin_eq, runs]⟩

theorem graphWithin_outside {e : OutsideRoot} (outside : ModuleId.fromPath entry project.root = .error e) :
    (project.graphWithin steps entry : StateM σ _).run w = (.error (.outside e), w) := by
  unfold graphWithin
  rw [outside]
  rfl

/-- States with the same files see the same end of a build. -/
theorem graphWithin_congr {τ : Type} [Host (StateM τ)] {keeps' : List Path → τ → Prop} {u : τ}
    (stable : Host.Stable world.files keeps) (stable' : Host.Stable world.files keeps') (here : keeps [] w)
    (here' : keeps' [] u) : ((project.graphWithin steps entry : StateM σ _).run w).1 =
      ((project.graphWithin steps entry : StateM τ _).run u).1 := by
  cases named : ModuleId.fromPath entry project.root with
  | error e => rw [graphWithin_outside named, graphWithin_outside named]
  | ok id =>
    obtain ⟨v, kept, runs⟩ := graphWithin_run project stable here named
    obtain ⟨v', kept', runs'⟩ := graphWithin_run project stable' here' named
    rw [runs, runs']
    exact congrArg outcome ((follows stable project).run_congr (follows stable' project) kept kept')

/-- The entry of a graph or of a failed search has an id. -/
theorem graphWithin_named
    (found : ((project.graphWithin steps entry : StateM σ _).run w).1 = outcome (some result)) :
    ∃ id, ModuleId.fromPath entry project.root = .ok id := by
  cases named : ModuleId.fromPath entry project.root with
  | ok id => exact ⟨id, rfl⟩
  | error e =>
    rw [graphWithin_outside named] at found
    cases result <;> cases found

theorem graphWithin_iff (named : ModuleId.fromPath entry project.root = .ok id) :
    (∃ steps, ((project.graphWithin steps entry : Session _).run world).1 = outcome (some result)) ↔
      Yields (project.catalogue world) (.start id) result := by
  obtain ⟨v, kept, runs⟩ := graphWithin_run project (Session.stable world) (Session.kept world []) named
  rw [← (follows (Session.stable world) project).run_iff (w := v) kept]
  simp only [runs, reported, outcome_injective.eq_iff]

/-- What a build comes to is what the search from the id of its entry yields. -/
theorem graphWithin_yields (result : Except (SearchError ModuleError) ModuleGraph)
    (found : ((project.graphWithin steps entry : Session _).run world).1 = outcome (some result)) :
    ∃ id, ModuleId.fromPath entry project.root = .ok id ∧ Yields (project.catalogue world) (.start id) result := by
  obtain ⟨id, named⟩ := graphWithin_named found
  exact ⟨id, named, (graphWithin_iff named).mp ⟨steps, found⟩⟩

/-- There is a graph exactly if finitely many modules are reached from the entry, all of them can be built
and none gets back to itself. The graph then holds what is reached, as it is built, and nothing else. -/
theorem graphWithin_ok_iff (project : Project) (world : World) (entry : Path) :
    ((∃ steps graph, ((project.graphWithin steps entry : Session _).run world).1 = .ok graph) ↔
      ∃ id, ModuleId.fromPath entry project.root = .ok id ∧
        {other | (project.catalogue world).Reaches id other}.Finite ∧
        (∀ other, (project.catalogue world).Reaches id other →
          ∃ built, ((project.build other : Session _).run world).1 = .ok built) ∧
        ∀ other, (project.catalogue world).Reaches id other →
          ¬ TransGen (project.catalogue world).Requires other other) ∧
      ∀ steps graph, ((project.graphWithin steps entry : Session _).run world).1 = .ok graph →
        ModuleId.fromPath entry project.root = .ok graph.entry ∧ graph.ids.Nodup ∧
        (∀ other, other ∈ graph.ids ↔ (project.catalogue world).Reaches graph.entry other) ∧
        (∀ other ∈ graph.ids, ∃ built, graph.find? other = some built ∧
          ((project.build other : Session _).run world).1 = .ok built) ∧
        graph.validate = .ok () := by
  simp only [← answer_eq]
  constructor
  · constructor
    · rintro ⟨steps, graph, found⟩
      obtain ⟨id, named, yields⟩ := graphWithin_yields (.ok graph) found
      exact ⟨id, named, Catalogue.sound_iff.mp (yields_ok_iff.mp ⟨graph, yields⟩)⟩
    · rintro ⟨id, named, finite, built, acyclic⟩
      obtain ⟨graph, yields⟩ := yields_ok_iff.mpr (Catalogue.sound_iff.mpr ⟨finite, built, acyclic⟩)
      obtain ⟨steps, found⟩ := (graphWithin_iff named).mpr yields
      exact ⟨steps, graph, found⟩
  · intro steps graph found
    obtain ⟨id, named, yields⟩ := graphWithin_yields (.ok graph) found
    obtain ⟨_, _, held, ends⟩ := yields.reached
    cases ends
    obtain rfl : graph.entry = id := held.entry_eq
    refine ⟨named, held.unique, fun other => held.mem_ids_iff, fun other member => ?_, held.validates⟩
    obtain ⟨built, stored, rfl⟩ := List.mem_map.mp member
    exact ⟨built, ModuleGraph.find?_eq_some held.unique stored, held.modules built stored⟩

/-- A module that is required by two others. -/
def diamond : World := .ofTexts [("a.js", "require('./b'); require('./c')"), ("b.js", "require('./d')"),
  ("c.js", "require('./d')"), ("d.js", "")]

/-- The texts of `/p`, without rules. -/
def plain : Project := ⟨⟨"/p"⟩, [], "js"⟩

theorem diamond_ids : ((plain.graphWithin 10 ⟨"/p/a.js"⟩ : Session _).run diamond).1.toOption.map (·.ids) =
    some [⟨"./a.js"⟩, ⟨"./b.js"⟩, ⟨"./d.js"⟩, ⟨"./c.js"⟩] := by decide +kernel

theorem diamond_graph : ∃ graph, ((plain.graphWithin 10 ⟨"/p/a.js"⟩ : Session _).run diamond).1 = .ok graph := by
  have ids := diamond_ids
  rcases found : ((plain.graphWithin 10 ⟨"/p/a.js"⟩ : Session _).run diamond).1 with e | graph
  · rw [found] at ids
    cases ids
  · exact ⟨graph, rfl⟩

theorem graphWithin_ok_diamond : ∃ graph,
    ((plain.graphWithin 10 ⟨"/p/a.js"⟩ : Session _).run diamond).1 = .ok graph ∧ graph.validate = .ok () ∧
      ∀ other, other ∈ graph.ids ↔ (plain.catalogue diamond).Reaches graph.entry other := by
  obtain ⟨graph, found⟩ := diamond_graph
  obtain ⟨_, _, stored, _, valid⟩ := (graphWithin_ok_iff plain diamond ⟨"/p/a.js"⟩).2 10 graph found
  exact ⟨graph, found, valid, stored⟩

/-- The graph of a project by plain recursion, which goes at most so deep. -/
def graphByCalls {m : Type → Type} [Monad m] [Host m] (depth : Nat) (project : Project) (entry : Path) :
    m (Except GraphError ModuleGraph) :=
  project.graphBy (fun id => explore project.builder depth [] (.empty id) id none) entry

/-- On a state whose files stay the same, a build and the recursion do the same work to the same end. -/
theorem graphWithin_run_eq (project : Project) (stable : Host.Stable world.files keeps) (here : keeps [] w)
    (finite : ∀ id, ModuleId.fromPath entry project.root = .ok id →
      {other | (project.catalogue world).Reaches id other}.Finite) :
    ∃ enough, ∀ steps ≥ enough, ∀ depth ≥ enough,
      (project.graphWithin steps entry : StateM σ _).run w = (project.graphByCalls depth entry : StateM σ _).run w ∧
        ((project.graphWithin steps entry : StateM σ _).run w).1 ≠ .error .endless := by
  cases named : ModuleId.fromPath entry project.root with
  | error e =>
    refine ⟨0, fun steps _ depth _ => ?_⟩
    rw [graphWithin_outside named]
    refine ⟨?_, by simp⟩
    unfold graphByCalls graphBy
    rw [named]
    rfl
  | ok id =>
    obtain ⟨v, kept, runs⟩ := graphBy_run project stable here named
    obtain ⟨enough, agree⟩ := run_eq_explore (follows stable project) (finite id named) kept
    refine ⟨enough, fun steps more depth deep => ?_⟩
    obtain ⟨result, u, searched, explored⟩ := agree steps more depth deep
    rw [graphWithin_eq, graphByCalls, runs, runs, searched, explored]
    exact ⟨rfl, by rcases result with _ | _ <;> simp [reported, outcome]⟩

/-- A build reads the files of modules that are reached from its entry, each of them once. -/
theorem graphWithin_reads
    (ended : ((project.graphWithin steps entry : Watch _).run ⟨world, []⟩).1 ≠ .error .endless) :
    ∃ loaded : List ModuleId, loaded.Nodup ∧
      (∀ other ∈ loaded, ∃ id, ModuleId.fromPath entry project.root = .ok id ∧
        (project.catalogue world).Reaches id other) ∧
      ((project.graphWithin steps entry : Watch _).run ⟨world, []⟩).2.reads = loaded.map (·.toPath project.root) ∧
      ∀ graph, ((project.graphWithin steps entry : Watch _).run ⟨world, []⟩).1 = .ok graph → loaded = graph.ids := by
  cases named : ModuleId.fromPath entry project.root with
  | error e =>
    rw [graphWithin_outside named]
    exact ⟨[], List.nodup_nil, by simp, rfl, fun graph found => by cases found⟩
  | ok id =>
    obtain ⟨v, kept, runs⟩ := graphWithin_run project (Watch.stable world) (Watch.kept world []) named
    rw [runs] at ended ⊢
    rcases ran : (Search.run (m := Watch) project.builder steps (.start id)).run v with ⟨_ | result, u⟩
    · rw [ran] at ended
      exact absurd rfl ended
    · have found : ((Search.run (m := Watch) project.builder steps (.start id)).run v).1 = some result := by rw [ran]
      have none : Watch.Kept world ((Search.start id).graph.ids.map (·.toPath project.root)) v := kept
      obtain ⟨final, path, ends, kept'⟩ := (follows (Watch.stable world) project).run_sound none found
      rw [ran] at kept'
      have held := Held.of_steps path
      refine ⟨asked final result, held.asked_nodup ends, fun other member => ⟨id, rfl, held.asked_reached ends other member⟩,
        (reported_keeps (Watch.stable world) kept').2, fun graph same => ?_⟩
      obtain rfl : result = .ok graph := Option.some.inj (outcome_injective same)
      cases ends
      rfl

/-- Where finitely many modules are reached, a build and the recursion come to the same, in a world with the
same log, after the same reads, and read each module that is reached at most once. -/
theorem graphWithin_eq_graphByCalls (project : Project) (world : World) (entry : Path)
    (finite : ∀ id, ModuleId.fromPath entry project.root = .ok id →
      {other | (project.catalogue world).Reaches id other}.Finite) :
    ∃ enough, ∀ steps ≥ enough, ∀ depth ≥ enough,
      (project.graphWithin steps entry : Session _).run world =
        (project.graphByCalls depth entry : Session _).run world ∧
      (project.graphWithin steps entry : Watch _).run ⟨world, []⟩ =
        (project.graphByCalls depth entry : Watch _).run ⟨world, []⟩ ∧
      ((project.graphWithin steps entry : Session _).run world).1 ≠ .error .endless ∧
      ∃ loaded : List ModuleId, loaded.Nodup ∧
        (∀ other ∈ loaded, ∃ id, ModuleId.fromPath entry project.root = .ok id ∧
          (project.catalogue world).Reaches id other) ∧
        ((project.graphWithin steps entry : Watch _).run ⟨world, []⟩).2.reads = loaded.map (·.toPath project.root) ∧
        ∀ graph, ((project.graphWithin steps entry : Session _).run world).1 = .ok graph → loaded = graph.ids := by
  obtain ⟨enough, agree⟩ := graphWithin_run_eq project (Session.stable world) (Session.kept world []) finite
  obtain ⟨enough', agree'⟩ := graphWithin_run_eq project (Watch.stable world) (Watch.kept world []) finite
  refine ⟨max enough enough', fun steps more depth deep => ?_⟩
  obtain ⟨same, ended⟩ := agree steps (by omega) depth (by omega)
  obtain ⟨same', ended'⟩ := agree' steps (by omega) depth (by omega)
  obtain ⟨loaded, distinct, reached, reads, stored⟩ := graphWithin_reads ended'
  refine ⟨same, same', ended, loaded, distinct, reached, reads, fun graph found => stored graph ?_⟩
  rw [← found]
  exact graphWithin_congr (Watch.stable world) (Session.stable world) (Watch.kept world []) (Session.kept world [])

theorem finite_of_graph {graph : ModuleGraph}
    (found : ((project.graphWithin steps entry : Session _).run world).1 = .ok graph)
    (named : ModuleId.fromPath entry project.root = .ok id) :
    {other | (project.catalogue world).Reaches id other}.Finite := by
  have yields : Yields (project.catalogue world) (.start id) (.ok graph) := (graphWithin_iff named).mp ⟨steps, found⟩
  exact (yields_ok_iff.mp ⟨graph, yields⟩).finite

theorem graphWithin_eq_graphByCalls_diamond :
    (∀ id, ModuleId.fromPath ⟨"/p/a.js"⟩ plain.root = .ok id →
      {other | (plain.catalogue diamond).Reaches id other}.Finite) ∧
    ∃ steps depth, (plain.graphWithin steps ⟨"/p/a.js"⟩ : Session _).run diamond =
      (plain.graphByCalls depth ⟨"/p/a.js"⟩ : Session _).run diamond := by
  obtain ⟨graph, found⟩ := diamond_graph
  have finite (id : ModuleId) (named : ModuleId.fromPath ⟨"/p/a.js"⟩ plain.root = .ok id) :
      {other | (plain.catalogue diamond).Reaches id other}.Finite := finite_of_graph found named
  obtain ⟨enough, agree⟩ := graphWithin_eq_graphByCalls plain diamond ⟨"/p/a.js"⟩ finite
  exact ⟨finite, enough, enough, (agree enough (Nat.le_refl enough) enough (Nat.le_refl enough)).1⟩

/-- A cycle that a build reports is one: its chain leads from a module over distinct ones back to it, each
is built and requires the next, and the first is reached from the entry. -/
theorem graphWithin_cycle {chain : List ModuleId}
    (failed : ((project.graphWithin steps entry : Session _).run world).1 = .error (.search (.cycle chain))) :
    2 ≤ chain.length ∧ chain.head? = chain.getLast? ∧ chain.dropLast.Nodup ∧
      (∀ other ∈ chain, ∃ built, ((project.build other : Session _).run world).1 = .ok built) ∧
      chain.IsChain (project.catalogue world).Requires ∧
      ∃ id, ModuleId.fromPath entry project.root = .ok id ∧
        ∀ first ∈ chain.head?, (project.catalogue world).Reaches id first := by
  simp only [← answer_eq]
  obtain ⟨id, named, yields⟩ := graphWithin_yields (.error (.cycle chain)) failed
  obtain ⟨long, closed, distinct, built, linked, reached⟩ := yields.cycle
  exact ⟨long, closed, distinct, built, linked, id, named, reached⟩

/-- A module that requires two others, which require each other. -/
def loop : World := .ofTexts [("a.js", "require('./b')"), ("b.js", "require('./c')"), ("c.js", "require('./b')")]

theorem graphWithin_cycle_loop : ((plain.graphWithin 9 ⟨"/p/a.js"⟩ : Session _).run loop).1 =
      .error (.search (.cycle [⟨"./b.js"⟩, ⟨"./c.js"⟩, ⟨"./b.js"⟩])) ∧
    ([⟨"./b.js"⟩, ⟨"./c.js"⟩, ⟨"./b.js"⟩] : List ModuleId).IsChain (plain.catalogue loop).Requires := by
  have failed : ((plain.graphWithin 9 ⟨"/p/a.js"⟩ : Session _).run loop).1 =
      .error (.search (.cycle [⟨"./b.js"⟩, ⟨"./c.js"⟩, ⟨"./b.js"⟩])) := by decide +kernel
  obtain ⟨_, _, _, _, linked, _⟩ := graphWithin_cycle failed
  exact ⟨failed, linked⟩

end Bundler.Project
