import Bundler.Proofs.Search.Step

/-!
Runs of a search on a state. A builder that answers from a catalogue, whatever it was asked before,
follows the steps of the catalogue: `Follows.run_iff` says that so many steps come to a result exactly
if the search yields it.
-/

namespace Bundler

/-- What follows some work goes on from the state that the work has left. -/
theorem run_bind_of {σ α β : Type} {work : StateM σ α} {rest : α → StateM σ β} {w v : σ} {a : α}
    (does : work.run w = (a, v)) : (work >>= rest).run w = (rest a).run v := by
  rw [StateT.run_bind, does]
  rfl

namespace Search

open Relation

variable {ε σ : Type} {builder : Builder (StateM σ) ε} {catalogue : Catalogue ε}
  {graph : ModuleGraph} {active : List ModuleId} {pending queued : List Visit} {search next : Search}
  {id : ModuleId} {importer : Option ModuleId} {w v : σ} {steps : Nat}

theorem visit_leave_none : (visit builder ⟨graph, [], queued⟩ pending .leave).run w =
    (.ok ⟨graph, [], pending⟩, w) := rfl

theorem visit_leave : (visit builder ⟨graph, id :: active, queued⟩ pending .leave).run w =
    (.ok ⟨graph, active, pending⟩, ((builder.tell (.finished id)).run w).2) := rfl

theorem visit_cycle (within : id ∈ active) :
    (visit builder ⟨graph, active, queued⟩ pending (.enter id importer)).run w =
      (.error (.cycle (chainTo active id)), w) := by
  simp [visit, within]
  rfl

theorem visit_skip (within : id ∉ active) (stored : graph.contains id = true) :
    (visit builder ⟨graph, active, queued⟩ pending (.enter id importer)).run w =
      (.ok ⟨graph, active, pending⟩, ((builder.tell (.skipped id)).run w).2) := by
  simp [visit, within, stored]
  rfl

theorem visit_unbuilt {cause : ε} (within : id ∉ active) (stored : graph.contains id = false)
    (asks : (builder.build id).run w = (.error cause, v)) :
    (visit builder ⟨graph, active, queued⟩ pending (.enter id importer)).run w =
      (.error (.unbuilt id importer cause), v) := by
  simp [visit, within, stored, asks]
  rfl

theorem visit_adopt {built : Module} (within : id ∉ active) (stored : graph.contains id = false)
    (asks : (builder.build id).run w = (.ok built, v)) :
    (visit builder ⟨graph, active, queued⟩ pending (.enter id importer)).run w =
      (.ok ⟨graph.insert built, id :: active,
        built.dependencies.map (.enter · (some id)) ++ .leave :: pending⟩, v) := by
  simp [visit, within, stored, asks]
  rfl

/-- A run goes on behind a visit that does not fail. -/
theorem run_visited {now : Visit} (first : search.pending = now :: pending)
    (visited : (search.visit builder pending now).run w = (.ok next, v)) :
    (run builder (steps + 1) search).run w = (run builder steps next).run v := by
  rw [run, first]
  exact run_bind_of visited

theorem run_failed {now : Visit} {e : SearchError ε} (first : search.pending = now :: pending)
    (failed : (search.visit builder pending now).run w = (.error e, v)) :
    (run builder (steps + 1) search).run w = (some (.error e), v) := by
  rw [run, first]
  exact run_bind_of failed

theorem run_done : (run builder (steps + 1) ⟨graph, active, []⟩).run w = (some (.ok graph), w) := rfl

theorem run_leave : (run builder (steps + 1) ⟨graph, id :: active, .leave :: pending⟩).run w =
    (run builder steps ⟨graph, active, pending⟩).run ((builder.tell (.finished id)).run w).2 :=
  run_visited rfl visit_leave

theorem run_cycle (within : id ∈ active) :
    (run builder (steps + 1) ⟨graph, active, .enter id importer :: pending⟩).run w =
      (some (.error (.cycle (chainTo active id))), w) :=
  run_failed rfl (visit_cycle within)

theorem run_skip (within : id ∉ active) (stored : graph.contains id = true) :
    (run builder (steps + 1) ⟨graph, active, .enter id importer :: pending⟩).run w =
      (run builder steps ⟨graph, active, pending⟩).run ((builder.tell (.skipped id)).run w).2 :=
  run_visited rfl (visit_skip within stored)

theorem run_unbuilt {cause : ε} (within : id ∉ active) (stored : graph.contains id = false)
    (asks : (builder.build id).run w = (.error cause, v)) :
    (run builder (steps + 1) ⟨graph, active, .enter id importer :: pending⟩).run w =
      (some (.error (.unbuilt id importer cause)), v) :=
  run_failed rfl (visit_unbuilt within stored asks)

theorem run_adopt {built : Module} (within : id ∉ active) (stored : graph.contains id = false)
    (asks : (builder.build id).run w = (.ok built, v)) :
    (run builder (steps + 1) ⟨graph, active, .enter id importer :: pending⟩).run w =
      (run builder steps ⟨graph.insert built, id :: active,
        built.dependencies.map (.enter · (some id)) ++ .leave :: pending⟩).run v :=
  run_visited rfl (visit_adopt within stored asks)

/-- The ids that have been asked for when a search ends: the stored ones, and the one that could
not be built. -/
def asked (search : Search) : Except (SearchError ε) ModuleGraph → List ModuleId
  | .error (.unbuilt id _ _) => search.graph.ids ++ [id]
  | _ => search.graph.ids

/-- A builder that answers from the catalogue whatever it was asked before. The state keeps what
`keeps ids` says of it once `ids` have been asked for. -/
structure Follows (builder : Builder (StateM σ) ε) (catalogue : Catalogue ε)
    (keeps : List ModuleId → σ → Prop) : Prop where
  build : ∀ {ids w} (id : ModuleId), keeps ids w →
    ((builder.build id).run w).1 = catalogue.answer id ∧ keeps (ids ++ [id]) ((builder.build id).run w).2
  tell : ∀ {ids w} (note : SearchNote), keeps ids w → keeps ids ((builder.tell note).run w).2

namespace Follows

variable {keeps : List ModuleId → σ → Prop} {final : Search} {result : Except (SearchError ε) ModuleGraph}

/-- Where the catalogue has a step, the visit that is next takes it. -/
theorem visit_step (follows : Follows builder catalogue keeps) (here : keeps search.graph.ids w)
    (step : Step catalogue search next) :
    ∃ now pending v, search.pending = now :: pending ∧ (search.visit builder pending now).run w = (.ok next, v) ∧
      keeps next.graph.ids v := by
  cases step with
  | @leave graph active pending =>
    cases active with
    | nil => exact ⟨_, _, _, rfl, visit_leave_none, here⟩
    | cons id active => exact ⟨_, _, _, rfl, visit_leave, follows.tell (.finished id) here⟩
  | @skip _ _ _ id _ within stored =>
    exact ⟨_, _, _, rfl, visit_skip within stored, follows.tell (.skipped id) here⟩
  | @adopt graph _ _ id _ built within stored answered =>
    obtain ⟨said, keeps'⟩ := follows.build id here
    rw [answered] at said
    refine ⟨_, _, _, rfl, visit_adopt within stored (Prod.ext said rfl), ?_⟩
    rw [Catalogue.ids_insert answered (ModuleGraph.not_contains_iff.mp stored)]
    exact keeps'

/-- Where the catalogue ends a search with an error, the visit that is next fails with it. -/
theorem visit_error (follows : Follows builder catalogue keeps) (here : keeps search.graph.ids w)
    {e : SearchError ε} (ends : Ends catalogue search (.error e)) :
    ∃ now pending v, search.pending = now :: pending ∧ (search.visit builder pending now).run w = (.error e, v) ∧
      keeps (asked search (.error e)) v := by
  cases ends with
  | cycle within => exact ⟨_, _, _, rfl, visit_cycle within, here⟩
  | @unbuilt _ _ _ id _ _ within stored answered =>
    obtain ⟨said, keeps'⟩ := follows.build id here
    rw [answered] at said
    exact ⟨_, _, _, rfl, visit_unbuilt within stored (Prod.ext said rfl), keeps'⟩

theorem run_step (follows : Follows builder catalogue keeps) (here : keeps search.graph.ids w)
    (step : Step catalogue search next) :
    ∃ v, keeps next.graph.ids v ∧
      ∀ steps, (run builder (steps + 1) search).run w = (run builder steps next).run v := by
  obtain ⟨now, pending, v, first, visited, kept⟩ := follows.visit_step here step
  exact ⟨v, kept, fun _ => run_visited first visited⟩

theorem run_end (follows : Follows builder catalogue keeps) (here : keeps search.graph.ids w)
    (ends : Ends catalogue search result) :
    ∃ v, keeps (asked search result) v ∧ ∀ steps, (run builder (steps + 1) search).run w = (some result, v) := by
  cases result with
  | ok graph =>
    cases ends
    exact ⟨w, here, fun _ => run_done⟩
  | error e =>
    obtain ⟨now, pending, v, first, failed, kept⟩ := follows.visit_error here ends
    exact ⟨v, kept, fun _ => run_failed first failed⟩

/-- A run that comes to a result within its steps has taken a path of the relation to an end of it. -/
theorem run_sound (follows : Follows builder catalogue keeps) (here : keeps search.graph.ids w)
    (found : ((run builder steps search).run w).1 = some result) :
    ∃ final, Steps catalogue search final ∧ Ends catalogue final result ∧
      keeps (asked final result) ((run builder steps search).run w).2 := by
  induction steps generalizing search w with
  | zero => cases found
  | succ steps ih =>
    rcases step_or_ends catalogue search with ⟨next, step⟩ | ⟨other, ends⟩
    · obtain ⟨v, keeps', runs⟩ := follows.run_step here step
      rw [runs] at found ⊢
      obtain ⟨final, path, ends, kept⟩ := ih keeps' found
      exact ⟨final, .head step path, ends, kept⟩
    · obtain ⟨v, keeps', runs⟩ := follows.run_end here ends
      rw [runs] at found ⊢
      cases found
      exact ⟨search, .refl, ends, keeps'⟩

/-- A run with enough steps takes any path of the relation to its end, and comes to the result there. -/
theorem run_complete (follows : Follows builder catalogue keeps) (here : keeps search.graph.ids w)
    (path : Steps catalogue search final) (ends : Ends catalogue final result) :
    ∃ enough, ∀ steps ≥ enough, ((run builder steps search).run w).1 = some result := by
  induction path using ReflTransGen.head_induction_on generalizing w with
  | refl =>
    obtain ⟨v, _, runs⟩ := follows.run_end here ends
    refine ⟨1, fun steps more => ?_⟩
    obtain ⟨rest, rfl⟩ : ∃ rest, steps = rest + 1 := ⟨steps - 1, by omega⟩
    rw [runs]
  | head step _ ih =>
    obtain ⟨v, keeps', runs⟩ := follows.run_step here step
    obtain ⟨enough, reached⟩ := ih keeps'
    refine ⟨enough + 1, fun steps more => ?_⟩
    obtain ⟨rest, rfl⟩ : ∃ rest, steps = rest + 1 := ⟨steps - 1, by omega⟩
    rw [runs]
    exact reached rest (by omega)

theorem run_iff (follows : Follows builder catalogue keeps) (here : keeps search.graph.ids w) :
    (∃ steps, ((run builder steps search).run w).1 = some result) ↔ Yields catalogue search result := by
  constructor
  · rintro ⟨steps, found⟩
    obtain ⟨final, path, ends, _⟩ := follows.run_sound here found
    exact ⟨final, path, ends⟩
  · rintro ⟨final, path, ends⟩
    obtain ⟨enough, reached⟩ := follows.run_complete here path ends
    exact ⟨enough, reached enough (Nat.le_refl enough)⟩

/-- Builders that follow one catalogue come to the same result in as many steps, on whatever states. -/
theorem run_congr {τ : Type} {other : Builder (StateM τ) ε} {keeps' : List ModuleId → τ → Prop} {u : τ}
    (follows : Follows builder catalogue keeps) (follows' : Follows other catalogue keeps')
    (here : keeps search.graph.ids w) (here' : keeps' search.graph.ids u) :
    ((run builder steps search).run w).1 = ((run other steps search).run u).1 := by
  induction steps generalizing search w u with
  | zero => rfl
  | succ steps ih =>
    rcases step_or_ends catalogue search with ⟨next, step⟩ | ⟨result, ends⟩
    · obtain ⟨w', here, runs⟩ := follows.run_step here step
      obtain ⟨u', here', runs'⟩ := follows'.run_step here' step
      rw [runs, runs', ih here here']
    · obtain ⟨w', _, runs⟩ := follows.run_end here ends
      obtain ⟨u', _, runs'⟩ := follows'.run_end here' ends
      rw [runs, runs']

end Follows

end Search

end Bundler
