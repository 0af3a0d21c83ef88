import Bundler.Proofs.Search.Step
import Mathlib.Data.Set.Finite.Lattice
import Mathlib.Order.Preorder.Finite

/-!
Sound ids: those from which every path of dependencies ends, with modules that can all be built. Said
of the dependencies alone, they are the ids from which finitely many ids are reached, all with modules
and none from itself. A visit of a sound id comes back, whatever has been stored before.
-/

namespace Bundler.Search

open Relation

variable {ε : Type}

namespace Catalogue

/-- The module of an id requires another id. -/
def Requires (catalogue : Catalogue ε) (importer id : ModuleId) : Prop :=
  ∃ built, catalogue.answer importer = .ok built ∧ id ∈ built.dependencies

abbrev Reaches (catalogue : Catalogue ε) : ModuleId → ModuleId → Prop := ReflTransGen catalogue.Requires

/-- An id whose module can be built and has none but sound dependencies. -/
inductive Sound (catalogue : Catalogue ε) : ModuleId → Prop
  | intro {id built} : catalogue.answer id = .ok built → (∀ next ∈ built.dependencies, catalogue.Sound next) →
      catalogue.Sound id

variable {catalogue : Catalogue ε} {id next : ModuleId} {built : Module}

theorem requires_iff (answered : catalogue.answer id = .ok built) :
    catalogue.Requires id next ↔ next ∈ built.dependencies := by
  constructor
  · rintro ⟨other, same, member⟩
    cases answered.symm.trans same
    exact member
  · exact fun member => ⟨built, answered, member⟩

theorem requires_next {handled waiting : List ModuleId} (answered : catalogue.answer id = .ok built)
    (split : built.dependencies = handled ++ next :: waiting) : catalogue.Requires id next :=
  ⟨built, answered, by simp [split]⟩

namespace Sound

theorem has_module (sound : catalogue.Sound id) : ∃ built, catalogue.answer id = .ok built := by
  cases sound with
  | intro answered _ => exact ⟨_, answered⟩

theorem requires (sound : catalogue.Sound id) (edge : catalogue.Requires id next) : catalogue.Sound next := by
  cases sound with
  | intro answered below => exact below next ((requires_iff answered).mp edge)

theorem reaches (sound : catalogue.Sound id) (path : catalogue.Reaches id next) : catalogue.Sound next := by
  induction path with
  | refl => exact sound
  | tail _ edge ih => exact ih.requires edge

theorem acyclic (sound : catalogue.Sound id) : ¬ TransGen catalogue.Requires id id := by
  induction sound with
  | @intro id built answered _ ih =>
    intro cycle
    obtain ⟨next, edge, back⟩ := TransGen.head'_iff.mp cycle
    exact ih next ((requires_iff answered).mp edge) (TransGen.tail' back edge)

theorem finite (sound : catalogue.Sound id) : {other | catalogue.Reaches id other}.Finite := by
  induction sound with
  | @intro id built answered _ ih =>
    have below : (⋃ next ∈ {next | next ∈ built.dependencies}, {other | catalogue.Reaches next other}).Finite :=
      (List.finite_toSet _).biUnion ih
    refine (below.insert id).subset ?_
    intro other path
    rcases ReflTransGen.cases_head path with rfl | ⟨next, edge, rest⟩
    · exact Set.mem_insert ..
    · exact Set.mem_insert_of_mem _ (Set.mem_biUnion ((requires_iff answered).mp edge) rest)

end Sound

/-- An id is sound if finitely many ids are reached from it, all with modules and none from itself. -/
theorem sound_iff : catalogue.Sound id ↔ {other | catalogue.Reaches id other}.Finite ∧
    (∀ other, catalogue.Reaches id other → ∃ built, catalogue.answer other = .ok built) ∧
    ∀ other, catalogue.Reaches id other → ¬ TransGen catalogue.Requires other other := by
  constructor
  · intro sound
    exact ⟨sound.finite, fun _ path => (sound.reaches path).has_module, fun _ path => (sound.reaches path).acyclic⟩
  · rintro ⟨finite, built, acyclic⟩
    -- Along the reached ids the dependencies are a well-founded relation, since there is no cycle.
    let reached := {other // catalogue.Reaches id other}
    let below (next other : reached) : Prop := TransGen catalogue.Requires other.1 next.1
    have : Finite reached := finite
    have irrefl : Std.Irrefl below := ⟨fun other => acyclic other.1 other.2⟩
    have trans : IsTrans reached below := ⟨fun _ _ _ first second => second.trans first⟩
    have wellFounded : WellFounded below := Finite.wellFounded_of_trans_of_irrefl below
    suffices all : ∀ other : reached, catalogue.Sound other.1 from all ⟨id, .refl⟩
    intro other
    induction other using wellFounded.induction with
    | _ other ih =>
      obtain ⟨built, answered⟩ := built other.1 other.2
      refine .intro answered fun next member => ?_
      have edge := (requires_iff answered).mpr member
      exact ih ⟨next, other.2.tail edge⟩ (.single edge)

end Catalogue

variable {catalogue : Catalogue ε} {graph : ModuleGraph} {active : List ModuleId} {pending : List Visit}
  {id : ModuleId} {importer : Option ModuleId}

/-- Visits that are pending one after the other are gone once each of them is, unless one of them has
`stops` for a consequence. -/
theorem steps_all {before : Search} {stops : Prop} {ids : List ModuleId}
    (visits : ∀ id ∈ ids, ∀ graph pending, Steps catalogue before ⟨graph, active, .enter id importer :: pending⟩ →
      stops ∨ ∃ after, Steps catalogue before ⟨after, active, pending⟩)
    (here : Steps catalogue before ⟨graph, active, ids.map (.enter · importer) ++ pending⟩) :
    stops ∨ ∃ after, Steps catalogue before ⟨after, active, pending⟩ := by
  induction ids generalizing graph with
  | nil => exact .inr ⟨graph, here⟩
  | cons id rest ih =>
    rcases visits id (List.mem_cons_self ..) graph _ here with stopped | ⟨between, first⟩
    · exact .inl stopped
    · exact ih (fun other member => visits other (List.mem_cons_of_mem id member)) first

/-- A visit of a sound id from which no active module is reached ends without an error, and the search
goes on with what was pending before. -/
theorem Catalogue.Sound.settles {before : Search} (sound : catalogue.Sound id)
    (apart : ∀ other ∈ active, ¬ catalogue.Reaches id other)
    (here : Steps catalogue before ⟨graph, active, .enter id importer :: pending⟩) :
    ∃ after, Steps catalogue before ⟨after, active, pending⟩ := by
  induction sound generalizing graph active pending importer with
  | @intro id built answered below ih =>
    have fresh : id ∉ active := fun within => apart id within .refl
    cases stored : graph.contains id with
    | true => exact ⟨graph, here.tail (.skip fresh stored)⟩
    | false =>
      have apart' (next : ModuleId) (member : next ∈ built.dependencies) :
          ∀ other ∈ id :: active, ¬ catalogue.Reaches next other := by
        have edge := (requires_iff answered).mpr member
        intro other within path
        rcases List.mem_cons.mp within with rfl | within
        · exact (Sound.intro answered below).acyclic (.head' edge path)
        · exact apart other within (path.head edge)
      have all : False ∨ ∃ after, Steps catalogue before ⟨after, id :: active, .leave :: pending⟩ :=
        steps_all (fun next member _ _ arrived => .inr (ih next member (apart' next member) arrived))
          (here.tail (.adopt fresh stored answered))
      obtain ⟨after, left⟩ := all.resolve_left not_false
      exact ⟨after, left.tail .leave⟩

end Bundler.Search
