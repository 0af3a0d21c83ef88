import Bundler.Module.Bundle
import Bundler.Proofs.Search.Reached
import Bundler.Proofs.Search.Run

/-!
Two searches side by side. Where two catalogues answer alike on all that the first one reaches from an entry, searches
take the same visits in both, step by step. Their ends differ at most in the files that modules come from and in the
causes of failures.
-/

namespace Bundler

/-- Modules that differ at most in the file that they were read from. -/
structure Module.Alike (one other : Module) : Prop where
  id : one.id = other.id
  source : one.source = other.source
  dependencies : one.dependencies = other.dependencies

/-- Graphs with one entry, and modules that are alike in the same order. -/
structure ModuleGraph.Alike (one other : ModuleGraph) : Prop where
  entry : one.entry = other.entry
  modules : List.Forall₂ Module.Alike one.modules other.modules

namespace ModuleGraph

variable {graph graph' : ModuleGraph} {m m' : Module}

theorem place_alike (alike : m.Alike m') {stored stored' : List Module}
    (same : List.Forall₂ Module.Alike stored stored') :
    List.Forall₂ Module.Alike (place m stored) (place m' stored') := by
  induction same with
  | nil => exact .cons alike .nil
  | cons first rest ih =>
    rw [place, place, ← alike.id, ← first.id]
    split
    · exact .cons alike rest
    · exact .cons first ih

theorem Alike.insert (same : graph.Alike graph') (alike : m.Alike m') : (graph.insert m).Alike (graph'.insert m') :=
  ⟨same.entry, place_alike alike same.modules⟩

/-- What is told by ids, sources and dependencies alone is the same for both graphs. -/
theorem Alike.map_eq (same : graph.Alike graph') {α : Type} {view : Module → α}
    (seen : ∀ {one other : Module}, one.Alike other → view one = view other) :
    graph.modules.map view = graph'.modules.map view := by
  obtain ⟨_, modules⟩ := same
  generalize graph.modules = stored, graph'.modules = stored' at modules ⊢
  induction modules with
  | nil => rfl
  | cons first _ ih => rw [List.map_cons, List.map_cons, seen first, ih]

theorem Alike.ids_eq (same : graph.Alike graph') : graph.ids = graph'.ids := same.map_eq Module.Alike.id

theorem Alike.contains_eq (same : graph.Alike graph') (id : ModuleId) : graph.contains id = graph'.contains id := by
  rw [Bool.eq_iff_iff, contains_iff, contains_iff, same.ids_eq]

/-- Graphs that are alike are the same where ids tell the files. -/
theorem Alike.eq_of_files (same : graph.Alike graph') (file : ModuleId → Path)
    (files : ∀ m ∈ graph.modules, m.path = file m.id) (files' : ∀ m ∈ graph'.modules, m.path = file m.id) :
    graph = graph' := by
  obtain ⟨entry, stored⟩ := graph
  obtain ⟨entry', stored'⟩ := graph'
  obtain ⟨rfl, modules⟩ := same
  refine congrArg (ModuleGraph.mk entry) ?_
  dsimp only at modules files files'
  induction modules with
  | nil => rfl
  | @cons m m' _ _ first _ ih =>
    have path : m.path = m'.path := by rw [files m (by simp), files' m' (by simp), first.id]
    obtain rfl : m = m' := by
      cases m
      cases m'
      simpa using ⟨first.id, path, first.source, first.dependencies⟩
    rw [ih (fun other member => files other (List.mem_cons_of_mem _ member))
      fun other member => files' other (List.mem_cons_of_mem _ member)]

theorem Alike.render_eq (same : graph.Alike graph') : Bundle.render graph = Bundle.render graph' := by
  have factories : graph.modules.map Bundle.factory = graph'.modules.map Bundle.factory :=
    same.map_eq fun alike => by rw [Bundle.factory, Bundle.factory, alike.id, alike.source]
  rw [Bundle.render, Bundle.render, factories, same.entry]

end ModuleGraph

namespace Search

variable {ε ε' : Type} {catalogue : Catalogue ε} {catalogue' : Catalogue ε'} {entry id : ModuleId}
  {importer : Option ModuleId} {search search' next : Search}

/-- Answers that are modules which are alike, or both failures. -/
inductive AnswersAlike : Except ε Module → Except ε' Module → Prop
  | built {m m'} : m.Alike m' → AnswersAlike (.ok m) (.ok m')
  | failed {cause cause'} : AnswersAlike (.error cause) (.error cause')

/-- Ends of searches in graphs that are alike, in one cycle, or at one module for one importer. -/
inductive EndsAlike : Except (SearchError ε) ModuleGraph → Except (SearchError ε') ModuleGraph → Prop
  | found {graph graph'} : graph.Alike graph' → EndsAlike (.ok graph) (.ok graph')
  | cycle chain : EndsAlike (.error (.cycle chain)) (.error (.cycle chain))
  | unbuilt id importer cause cause' :
      EndsAlike (.error (.unbuilt id importer cause)) (.error (.unbuilt id importer cause'))

theorem of_found {found : Option (Except (SearchError ε') ModuleGraph)} {graph : ModuleGraph}
    (alike : Option.Rel (@EndsAlike ε ε') (some (.ok graph)) found) :
    ∃ graph', found = some (.ok graph') ∧ graph.Alike graph' := by
  cases alike with
  | some ends =>
    cases ends with
    | found graphs => exact ⟨_, rfl, graphs⟩

/-- Searches with graphs that are alike, and the same modules active and visits pending. -/
structure Alike (one other : Search) : Prop where
  graph : one.graph.Alike other.graph
  active : one.active = other.active
  pending : one.pending = other.pending

/-- Whether two catalogues answer alike on what the first one reaches from an entry. -/
def Agree (catalogue : Catalogue ε) (catalogue' : Catalogue ε') (entry : ModuleId) : Prop :=
  ∀ id, catalogue.Reaches entry id → AnswersAlike (catalogue.answer id) (catalogue'.answer id)

theorem Agree.built (agree : Agree catalogue catalogue' entry) {graph : ModuleGraph} {active : List ModuleId}
    {pending : List Visit} (held : Held catalogue entry ⟨graph, active, .enter id importer :: pending⟩) :
    AnswersAlike (catalogue.answer id) (catalogue'.answer id) :=
  agree id held.shape.reaches

theorem Step.alike (agree : Agree catalogue catalogue' entry) (held : Held catalogue entry search)
    (same : search.Alike search') (step : Step catalogue search next) :
    ∃ next', Step catalogue' search' next' ∧ next.Alike next' := by
  obtain ⟨graph', _, _⟩ := search'
  obtain ⟨graphs, rfl, rfl⟩ := same
  cases step with
  | leave => exact ⟨_, .leave, graphs, rfl, rfl⟩
  | skip fresh stored => exact ⟨_, .skip fresh (graphs.contains_eq _ ▸ stored), graphs, rfl, rfl⟩
  | @adopt graph active pending id importer built fresh stored answered =>
    have answers := agree.built held
    rw [answered] at answers
    generalize answered' : catalogue'.answer id = answer' at answers
    cases answers with
    | built alike =>
      refine ⟨_, .adopt fresh (graphs.contains_eq _ ▸ stored) answered', graphs.insert alike, rfl, ?_⟩
      rw [alike.dependencies]

theorem Ends.alike (agree : Agree catalogue catalogue' entry) (held : Held catalogue entry search)
    (same : search.Alike search') {result : Except (SearchError ε) ModuleGraph} (ends : Ends catalogue search result) :
    ∃ result', Ends catalogue' search' result' ∧ EndsAlike result result' := by
  obtain ⟨graph', _, _⟩ := search'
  obtain ⟨graphs, rfl, rfl⟩ := same
  cases ends with
  | done => exact ⟨_, .done, .found graphs⟩
  | cycle within => exact ⟨_, .cycle within, .cycle _⟩
  | @unbuilt graph active pending id importer cause fresh stored unanswered =>
    have answers := agree.built held
    rw [unanswered] at answers
    generalize unanswered' : catalogue'.answer id = answer' at answers
    cases answers with
    | failed => exact ⟨_, .unbuilt fresh (graphs.contains_eq _ ▸ stored) unanswered', .unbuilt _ _ _ _⟩

/-- As many steps of two searches come to ends that are alike, or to none. The induction is on the steps; that the first
search holds what it holds from its start keeps the visited ids among those that are reached. -/
theorem Follows.run_alike {σ τ : Type} {builder : Builder (StateM σ) ε} {builder' : Builder (StateM τ) ε'}
    {keeps : List ModuleId → σ → Prop} {keeps' : List ModuleId → τ → Prop} {w : σ} {u : τ} (steps : Nat)
    (follows : Follows builder catalogue keeps) (follows' : Follows builder' catalogue' keeps')
    (agree : Agree catalogue catalogue' entry) (held : Held catalogue entry search) (same : search.Alike search')
    (here : keeps search.graph.ids w) (here' : keeps' search'.graph.ids u) :
    Option.Rel EndsAlike ((run builder steps search).run w).1 ((run builder' steps search').run u).1 := by
  induction steps generalizing search search' w u with
  | zero => exact .none
  | succ steps ih =>
    rcases step_or_ends catalogue search with ⟨next, step⟩ | ⟨result, ends⟩
    · obtain ⟨next', step', same'⟩ := step.alike agree held same
      obtain ⟨v, here, runs⟩ := follows.run_step here step
      obtain ⟨v', here', runs'⟩ := follows'.run_step here' step'
      rw [runs, runs']
      exact ih (held.step step) same' here here'
    · obtain ⟨result', ends', alike⟩ := ends.alike agree held same
      obtain ⟨v, _, runs⟩ := follows.run_end here ends
      obtain ⟨v', _, runs'⟩ := follows'.run_end here' ends'
      rw [runs, runs']
      exact .some alike

end Search

end Bundler
