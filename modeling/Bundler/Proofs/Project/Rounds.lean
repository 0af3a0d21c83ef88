import Bundler.Proofs.Project.Graph
import Bundler.Proofs.Search.Bracketed
import Bundler.Proofs.Search.Rounds

/-!
The states that the search of a build goes through: `graphWithin_orderly` says what holds of each of them.
-/

namespace Bundler.Project

open Search

variable {project : Project} {world : World} {entry : Path} {id : ModuleId}

/-- A build goes through the states of the search from the id of its entry. In each of them the visits pending are
bracketed by the active modules, and the stored modules are as building them gives them. -/
theorem graphWithin_orderly (named : ModuleId.fromPath entry project.root = .ok id) :
    (∀ steps, (project.graphWithin steps entry : Session _).run world =
      reported ((Sum.getRight? <$> Search.after project.builder steps (.start id) : Session _).run (begun id world))) ∧
    ∀ visits search,
      ((Search.after project.builder visits (.start id) : Session _).run (begun id world)).1 = .inl search →
        search.Orderly id ∧
        ∀ m ∈ search.graph.modules, ((project.build m.id : Session _).run world).1 = .ok m := by
  constructor
  · intro steps
    rw [graphWithin_eq, graphBy_begun named, run_eq_after]
  · intro visits search reached
    have stable := Session.stable world
    have kept : Session.Kept world ((Search.start id).graph.ids.map (·.toPath project.root)) (begun id world) :=
      stable.log _ (Session.kept world _)
    have held := Held.of_steps ((follows stable project).steps_of_after kept reached)
    simp only [← answer_eq]
    exact ⟨held.orderly, held.modules⟩

/-- Three modules deep in a build, the outermost one still has a dependency to be met. -/
theorem graphWithin_orderly_diamond : ModuleId.fromPath ⟨"/p/a.js"⟩ plain.root = .ok ⟨"./a.js"⟩ ∧
    ∃ search : Search, ((Search.after plain.builder 3 (.start ⟨"./a.js"⟩) : Session _).run
        (begun ⟨"./a.js"⟩ diamond)).1 = .inl search ∧
      search.active = [⟨"./d.js"⟩, ⟨"./b.js"⟩, ⟨"./a.js"⟩] ∧
      search.pending = [.leave, .leave, .enter ⟨"./c.js"⟩ (some ⟨"./a.js"⟩), .leave] ∧ search.Orderly ⟨"./a.js"⟩ := by
  have named : ModuleId.fromPath ⟨"/p/a.js"⟩ plain.root = .ok ⟨"./a.js"⟩ := by decide +kernel
  have seen : ((Search.after plain.builder 3 (.start ⟨"./a.js"⟩) : Session _).run
        (begun ⟨"./a.js"⟩ diamond)).1.getLeft?.map (fun search => (search.active, search.pending)) =
      some ([⟨"./d.js"⟩, ⟨"./b.js"⟩, ⟨"./a.js"⟩],
        [.leave, .leave, .enter ⟨"./c.js"⟩ (some ⟨"./a.js"⟩), .leave]) := by decide +kernel
  obtain ⟨search, left, seen⟩ := Option.map_eq_some_iff.mp seen
  obtain ⟨active, pending⟩ := Prod.mk.inj seen
  have reached := Sum.getLeft?_eq_some_iff.mp left
  exact ⟨named, search, reached, active, pending, ((graphWithin_orderly named).2 3 search reached).1⟩

end Bundler.Project
