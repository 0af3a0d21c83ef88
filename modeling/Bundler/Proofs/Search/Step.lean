import Bundler.Build.Search
import Bundler.Proofs.Module.Graph
import Mathlib.Logic.Relation

/-!
The steps of a search, as a relation on its states. What a builder does besides answering is left
out: only the catalogue of its answers counts.
-/

namespace Bundler.Search

open Relation

variable {ε : Type}

/-- The module of every id, or why it has none. A module bears the id that it was built for. -/
structure Catalogue (ε : Type) where
  answer : ModuleId → Except ε Module
  bears : ∀ {id built}, answer id = .ok built → built.id = id

/-- A module that is not stored yet goes to the end under the id that it was built for. -/
theorem Catalogue.ids_insert {catalogue : Catalogue ε} {graph : ModuleGraph} {id : ModuleId} {built : Module}
    (answered : catalogue.answer id = .ok built) (unstored : id ∉ graph.ids) :
    (graph.insert built).ids = graph.ids ++ [id] := by
  have bears := catalogue.bears answered
  rw [ModuleGraph.ids_insert (by rwa [bears]), bears]

/-- What one visit does to a search. -/
inductive Step (catalogue : Catalogue ε) : Search → Search → Prop
  | leave {graph active pending} :
      Step catalogue ⟨graph, active, .leave :: pending⟩ ⟨graph, active.tail, pending⟩
  | skip {graph active pending id importer} : id ∉ active → graph.contains id = true →
      Step catalogue ⟨graph, active, .enter id importer :: pending⟩ ⟨graph, active, pending⟩
  | adopt {graph active pending id importer built} : id ∉ active → graph.contains id = false →
      catalogue.answer id = .ok built →
      Step catalogue ⟨graph, active, .enter id importer :: pending⟩
        ⟨graph.insert built, id :: active, built.dependencies.map (.enter · (some id)) ++ .leave :: pending⟩

/-- Where a search stops, and what it comes to there. -/
inductive Ends (catalogue : Catalogue ε) : Search → Except (SearchError ε) ModuleGraph → Prop
  | done {graph active} : Ends catalogue ⟨graph, active, []⟩ (.ok graph)
  | cycle {graph active pending id importer} : id ∈ active →
      Ends catalogue ⟨graph, active, .enter id importer :: pending⟩ (.error (.cycle (chainTo active id)))
  | unbuilt {graph active pending id importer cause} : id ∉ active → graph.contains id = false →
      catalogue.answer id = .error cause →
      Ends catalogue ⟨graph, active, .enter id importer :: pending⟩ (.error (.unbuilt id importer cause))

abbrev Steps (catalogue : Catalogue ε) : Search → Search → Prop := ReflTransGen (Step catalogue)

/-- What a search comes to after finitely many steps. -/
def Yields (catalogue : Catalogue ε) (search : Search) (result : Except (SearchError ε) ModuleGraph) : Prop :=
  ∃ final, Steps catalogue search final ∧ Ends catalogue final result

variable {catalogue : Catalogue ε} {search : Search}

theorem step_or_ends (catalogue : Catalogue ε) (search : Search) :
    (∃ next, Step catalogue search next) ∨ ∃ result, Ends catalogue search result := by
  obtain ⟨graph, active, pending⟩ := search
  rcases pending with _ | ⟨_ | _, pending⟩
  · exact .inr ⟨_, .done⟩
  · rename_i id importer
    by_cases within : id ∈ active
    · exact .inr ⟨_, .cycle within⟩
    cases stored : graph.contains id with
    | true => exact .inl ⟨_, .skip within stored⟩
    | false =>
      cases answered : catalogue.answer id with
      | ok built => exact .inl ⟨_, .adopt within stored answered⟩
      | error cause => exact .inr ⟨_, .unbuilt within stored answered⟩
  · exact .inl ⟨_, .leave⟩

theorem Step.unique {left right : Search} (one : Step catalogue search left)
    (other : Step catalogue search right) : left = right := by
  cases one <;> cases other <;> simp_all

theorem Ends.unique {left right : Except (SearchError ε) ModuleGraph} (one : Ends catalogue search left)
    (other : Ends catalogue search right) : left = right := by
  cases one <;> cases other <;> simp_all

theorem Step.not_ends {next : Search} {result : Except (SearchError ε) ModuleGraph}
    (step : Step catalogue search next) : ¬ Ends catalogue search result := by
  intro ends
  cases step <;> cases ends <;> simp_all

/-- A search that stops has one path and one result, since no state offers a choice. -/
theorem Yields.unique {left right : Except (SearchError ε) ModuleGraph}
    (one : Yields catalogue search left) (other : Yields catalogue search right) : left = right := by
  obtain ⟨final, path, ends⟩ := one
  induction path using ReflTransGen.head_induction_on with
  | refl =>
    obtain ⟨_, path, last⟩ := other
    rcases path.cases_head with rfl | ⟨next, step, _⟩
    · exact ends.unique last
    · exact absurd ends step.not_ends
  | head step _ ih =>
    obtain ⟨_, path, last⟩ := other
    rcases path.cases_head with rfl | ⟨next, step', path⟩
    · exact absurd last step.not_ends
    · obtain rfl := step.unique step'
      exact ih ⟨_, path, last⟩

end Bundler.Search
