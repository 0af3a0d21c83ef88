import Bundler.Proofs.Module.Id
import Bundler.Proofs.Project.Ending

/-!
Which modules of a graph have one file. An id may leave directories above the project and come back by their
names; it is another id then, of the same file.
-/

namespace Bundler

namespace ModuleId

open Bundler.Path

variable {root : Path} {id other : ModuleId}

/-- The names by which an id leads down from where it has climbed. -/
def names (id : ModuleId) : List String := (segments id.text).drop id.climb

/-- Whether an id goes a longer way to the file of another one: it climbs further, and comes back by the
directories above the project root that it has left on the way. -/
def Detour (root : Path) (id longer : ModuleId) : Prop :=
  id.climb < longer.climb ∧ longer.names =
    ((collapse true root.parts).take (root.depth - id.climb)).drop (root.depth - longer.climb) ++ id.names

theorem names_climbing {ups : Nat} {names : List String} (proper : ∀ name ∈ names, IsName name) :
    (climbing ups names).names = names := by
  rw [ModuleId.names, segments_climbing proper, climb_climbing proper, List.drop_left' (by simp)]

/-- An id that climbs further has the same file exactly if it is a detour. -/
theorem Canonical.toPath_eq_of_climb_lt (canonical : id.Canonical) (canonical' : other.Canonical)
    (absolute : root.isAbsolute = true) (further : id.climb < other.climb) :
    id.toPath root = other.toPath root ↔ Detour root id other := by
  obtain ⟨ups, names, proper, rfl⟩ := canonical
  obtain ⟨ups', names', proper', rfl⟩ := canonical'
  rw [Detour, and_iff_right further, names_climbing proper, names_climbing proper', climb_climbing proper,
    climb_climbing proper', toPath_climbing absolute proper, toPath_climbing absolute proper']
  rw [climb_climbing proper, climb_climbing proper'] at further
  have between := List.take_append_drop (root.depth - ups') ((collapse true root.parts).take (root.depth - ups))
  rw [List.take_take, Nat.min_eq_left (by omega)] at between
  constructor
  · intro same
    have parts := ofParts_injective (fun name member => (isName_toPath ups proper name member).1)
      (fun name member => (isName_toPath ups' proper' name member).1) same
    rw [← between, List.append_assoc] at parts
    exact (List.append_cancel_left parts).symm
  · intro back
    rw [back, ← List.append_assoc, between]

/-- Two ids have one file exactly if they are the same, or one is a detour of the other. -/
theorem Canonical.toPath_eq_iff (canonical : id.Canonical) (canonical' : other.Canonical)
    (absolute : root.isAbsolute = true) :
    id.toPath root = other.toPath root ↔ id = other ∨ Detour root id other ∨ Detour root other id := by
  rcases Nat.lt_trichotomy id.climb other.climb with further | level | further
  · have apart : id ≠ other := fun same => Nat.ne_of_lt further (congrArg climb same)
    have only : ¬ Detour root other id := fun detour => Nat.lt_asymm further detour.1
    simp [canonical.toPath_eq_of_climb_lt canonical' absolute further, apart, only]
  · have none : ¬ Detour root id other := fun detour => Nat.ne_of_lt detour.1 level
    have none' : ¬ Detour root other id := fun detour => Nat.ne_of_lt detour.1 level.symm
    simp only [none, none', or_false]
    exact ⟨canonical.eq_of_toPath canonical' absolute level, fun same => same ▸ rfl⟩
  · have apart : id ≠ other := fun same => Nat.ne_of_gt further (congrArg climb same)
    have only : ¬ Detour root id other := fun detour => Nat.lt_asymm further detour.1
    rw [eq_comm, canonical'.toPath_eq_of_climb_lt canonical absolute further]
    simp [apart, only]

end ModuleId

namespace Project

variable {project : Project} {world : World} {entry : Path} {id : ModuleId} {steps : Nat} {graph : ModuleGraph}
  {built : Module}

theorem path_of_answer (answered : (project.catalogue world).answer id = .ok built) :
    built.path = id.toPath project.root := by
  rw [catalogue_answer, answerIn] at answered
  cases source : Rule.sourceOf project.rules (id.toPath project.root) (world.files (id.toPath project.root)) with
  | error e =>
    rw [source] at answered
    cases answered
  | ok source' =>
    rw [source, moduleOf] at answered
    cases rewrites : (rewrite project.extension id source').result with
    | error e =>
      rw [rewrites] at answered
      cases answered
    | ok rewritten =>
      rw [rewrites] at answered
      cases answered
      rfl

/-- The modules of a graph and what they require have canonical ids, and their files are those of their ids. -/
theorem modules_of_graph (found : ((project.graphWithin steps entry : Session _).run world).1 = .ok graph)
    (member : built ∈ graph.modules) :
    built.id.Canonical ∧ built.path = built.id.toPath project.root ∧
      ∀ dependency ∈ built.dependencies, dependency.Canonical := by
  obtain ⟨id, named, yields⟩ := graphWithin_yields (.ok graph) found
  obtain ⟨_, _, held, ends⟩ := yields.reached
  cases ends
  have answered := held.modules built member
  have reached := held.reached built.id (List.mem_map_of_mem member)
  exact ⟨canonical_reaches named reached, path_of_answer answered, fun dependency required =>
    canonical_reaches named (reached.tail ⟨built, answered, required⟩)⟩

/-- No two modules of a graph have one file exactly if no id of the graph is a detour of another one, and what is
required twice by different ids is required by a detour. -/
theorem graphWithin_one_file_iff (absolute : project.root.isAbsolute = true)
    (found : ((project.graphWithin steps entry : Session _).run world).1 = .ok graph) :
    ((∀ one ∈ graph.modules, ∀ other ∈ graph.modules, one.path = other.path → one.id = other.id) ↔
      ∀ id ∈ graph.ids, ∀ longer ∈ graph.ids, ¬ ModuleId.Detour project.root id longer) ∧
    ∀ one ∈ graph.modules, ∀ other ∈ graph.modules, ∀ id ∈ one.dependencies, ∀ id' ∈ other.dependencies,
      (id.toPath project.root = id'.toPath project.root ↔
        id = id' ∨ ModuleId.Detour project.root id id' ∨ ModuleId.Detour project.root id' id) := by
  constructor
  · constructor
    · intro apart id member longer member' detour
      obtain ⟨one, there, rfl⟩ := List.mem_map.mp member
      obtain ⟨other, there', rfl⟩ := List.mem_map.mp member'
      obtain ⟨canonical, file, _⟩ := modules_of_graph found there
      obtain ⟨canonical', file', _⟩ := modules_of_graph found there'
      have same := (canonical.toPath_eq_iff canonical' absolute).mpr (.inr (.inl detour))
      have equal := apart one there other there' (file.trans (same.trans file'.symm))
      exact Nat.ne_of_lt detour.1 (congrArg ModuleId.climb equal)
    · intro direct one there other there' same
      obtain ⟨canonical, file, _⟩ := modules_of_graph found there
      obtain ⟨canonical', file', _⟩ := modules_of_graph found there'
      rw [file, file', canonical.toPath_eq_iff canonical' absolute] at same
      have stored : one.id ∈ graph.ids := List.mem_map_of_mem there
      have stored' : other.id ∈ graph.ids := List.mem_map_of_mem there'
      exact same.resolve_right (not_or.mpr ⟨direct _ stored _ stored', direct _ stored' _ stored⟩)
  · intro one there other there' id required id' required'
    exact ((modules_of_graph found there).2.2 id required).toPath_eq_iff
      ((modules_of_graph found there').2.2 id' required') absolute

theorem graphWithin_one_file_diamond : ∃ graph,
    ((plain.graphWithin 10 ⟨"/p/a.js"⟩ : Session _).run diamond).1 = .ok graph ∧
      ∀ one ∈ graph.modules, ∀ other ∈ graph.modules, one.path = other.path → one.id = other.id := by
  obtain ⟨graph, found⟩ := diamond_graph
  have stored := diamond_ids
  rw [found] at stored
  have ids : graph.ids = _ := Option.some.inj stored
  have level : ∀ id ∈ graph.ids, id.climb = 0 := by
    rw [ids]
    decide +kernel
  have absolute : plain.root.isAbsolute = true := by decide +kernel
  refine ⟨graph, found, (graphWithin_one_file_iff absolute found).1.mpr fun id member longer member' detour => ?_⟩
  have further := detour.1
  rw [level id member, level longer member'] at further
  exact Nat.lt_irrefl 0 further

/-- A module that requires another one twice, once by way of the directory above the project. -/
def twins : World := .ofTexts [("a.js", "require('./b'); require('../p/b')"), ("b.js", "")]

/-- Both ids are stored, each with the text of the file. -/
theorem twins_two_modules : ∃ graph, ((plain.graphWithin 9 ⟨"/p/a.js"⟩ : Session _).run twins).1 = .ok graph ∧
    ∃ one ∈ graph.modules, ∃ other ∈ graph.modules, one.path = other.path ∧ one.id ≠ other.id := by
  have stored : ((plain.graphWithin 9 ⟨"/p/a.js"⟩ : Session _).run twins).1.toOption.map (·.modules.drop 1) =
      some [⟨⟨"./b.js"⟩, ⟨"/p/b.js"⟩, "", []⟩, ⟨⟨"./../p/b.js"⟩, ⟨"/p/b.js"⟩, "", []⟩] := by decide +kernel
  rcases found : ((plain.graphWithin 9 ⟨"/p/a.js"⟩ : Session _).run twins).1 with e | graph
  · rw [found] at stored
    cases stored
  · rw [found] at stored
    have last : graph.modules.drop 1 = _ := Option.some.inj stored
    have modules {m : Module} (there : m ∈ graph.modules.drop 1) : m ∈ graph.modules := List.mem_of_mem_drop there
    rw [last] at modules
    exact ⟨graph, rfl, _, modules (.head _), _, modules (.tail _ (.head _)), rfl, by decide⟩

end Project

end Bundler
