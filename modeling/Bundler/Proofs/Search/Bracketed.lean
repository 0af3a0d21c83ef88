import Bundler.Proofs.Search.Reached

/-!
How the visits of a search lie within its active modules. Each active module has its leave pending, and
in front of that its own dependencies: `Held.orderly` says so of the graph, the active modules and the
pending visits alone, without the catalogue that the modules come from.
-/

namespace Bundler

/-- A stored module has an id among its dependencies. -/
def ModuleGraph.Requires (graph : ModuleGraph) (importer id : ModuleId) : Prop :=
  ∃ m, graph.find? importer = some m ∧ id ∈ m.dependencies

namespace Search

open Relation

variable {ε : Type}

/-- Visits that are bracketed by the active modules: one leave for each of them, the innermost first, and
in front of it what that module requires. -/
inductive Bracketed (catalogue : Catalogue ε) (entry : ModuleId) : List ModuleId → List Visit → Prop
  | finished : Bracketed catalogue entry [] []
  | begins : Bracketed catalogue entry [] [.enter entry none]
  | leave {id active pending} : Bracketed catalogue entry active pending →
      Bracketed catalogue entry (id :: active) (.leave :: pending)
  | enter {id importer outer pending} : catalogue.Requires importer id →
      Bracketed catalogue entry (importer :: outer) pending →
      Bracketed catalogue entry (importer :: outer) (.enter id (some importer) :: pending)

variable {catalogue : Catalogue ε} {entry id importer : ModuleId} {active outer : List ModuleId}
  {pending above below later : List Visit} {search : Search}

namespace Bracketed

theorem enter_all (bracketed : Bracketed catalogue entry (importer :: outer) pending) {ids : List ModuleId}
    (required : ∀ id ∈ ids, catalogue.Requires importer id) :
    Bracketed catalogue entry (importer :: outer) (ids.map (.enter · (some importer)) ++ pending) := by
  induction ids with
  | nil => exact bracketed
  | cons id rest ih =>
    have first := required id (List.mem_cons_self ..)
    exact .enter first (ih fun other member => required other (List.mem_cons_of_mem id member))

/-- There are as many leaves pending as there are active modules. -/
theorem count_leave (bracketed : Bracketed catalogue entry active pending) :
    pending.count .leave = active.length := by
  induction bracketed with
  | finished => rfl
  | begins => rfl
  | leave _ ih => rw [List.count_cons_self, ih, List.length_cons]
  | enter _ _ ih => rw [List.count_cons_of_ne (by simp), ih]

/-- A visit for an importer lies above the leaves of that module and of those around it. -/
theorem enters (bracketed : Bracketed catalogue entry active pending)
    (split : pending = above ++ .enter id (some importer) :: below) :
    catalogue.Requires importer id ∧
      ∃ inner outer, active = inner ++ importer :: outer ∧ below.count .leave = (importer :: outer).length := by
  induction bracketed generalizing above with
  | finished => simp at split
  | begins =>
    cases above with
    | nil => cases split
    | cons visit above => simp at split
  | @leave last active pending _ ih =>
    cases above with
    | nil => cases split
    | cons visit above =>
      obtain ⟨edge, inner, outer, rfl, count⟩ := ih (List.cons_eq_cons.mp split).2
      exact ⟨edge, last :: inner, outer, rfl, count⟩
  | enter edge within ih =>
    cases above with
    | nil =>
      cases split
      exact ⟨edge, [], _, rfl, within.count_leave⟩
    | cons visit above => exact ih (List.cons_eq_cons.mp split).2

theorem importer_mem (bracketed : Bracketed catalogue entry active pending)
    (queued : .enter id (some importer) ∈ pending) : importer ∈ active := by
  obtain ⟨above, below, split⟩ := List.append_of_mem queued
  obtain ⟨_, inner, outer, rfl, _⟩ := bracketed.enters split
  simp

end Bracketed

theorem Within.bracketed (within : Within catalogue entry id outer later) : Bracketed catalogue entry outer later := by
  induction within with
  | entry => exact .finished
  | dependency _ answered split _ ih =>
    refine ih.leave.enter_all fun other member => (Catalogue.requires_iff answered).mpr ?_
    rw [split]
    exact List.mem_append_right _ (List.mem_cons_of_mem _ member)

namespace Shaped

theorem bracketed (shape : Shaped catalogue entry active pending) : Bracketed catalogue entry active pending := by
  cases shape with
  | begins => exact .begins
  | works within answered split _ =>
    refine within.bracketed.leave.enter_all fun other member => (Catalogue.requires_iff answered).mpr ?_
    rw [split]
    exact List.mem_append_right _ member
  | finished => exact .finished

/-- The active modules are a path from the entry, read from its end. -/
theorem path (shape : Shaped catalogue entry active pending) :
    (∀ last ∈ active.getLast?, last = entry) ∧
      active.IsChain (fun next other => catalogue.Requires other next) := by
  cases shape with
  | begins => simp
  | works within _ _ _ =>
    rw [within.getLast?_eq]
    exact ⟨fun last same => (Option.some.inj same).symm, within.chain⟩
  | finished => simp

end Shaped

/-- What holds of a search whenever it is at the head of its loop. -/
structure Orderly (entry : ModuleId) (search : Search) : Prop where
  leaves : search.pending.count .leave = search.active.length
  distinct : search.active.Nodup
  unique : search.graph.ids.Nodup
  stored : ∀ id ∈ search.active, id ∈ search.graph.ids
  /-- From outside in, the active modules start with the entry. -/
  outermost : ∀ id ∈ search.active.reverse.head?, id = entry
  /-- From outside in, each active module requires the next. -/
  chain : search.active.reverse.IsChain search.graph.Requires
  /-- A leave finds a module that is active, and whose dependencies have all been met and left: they are
  stored, are not active, and no visit of them is pending for it. -/
  leaving : ∀ below, search.pending = .leave :: below → ∃ id outer, search.active = id :: outer ∧
    ∀ dependency, .enter dependency (some id) ∉ below ∧
      (search.graph.Requires id dependency → dependency ∈ search.graph.ids ∧ dependency ∉ search.active)
  /-- A visit for an importer is one of its dependencies, and lies above as many leaves as there are active
  modules from the outermost one to the importer. -/
  entering : ∀ above id importer below, search.pending = above ++ .enter id (some importer) :: below →
    search.graph.Requires importer id ∧
      ∃ inner outer, search.active = inner ++ importer :: outer ∧ below.count .leave = (importer :: outer).length
  /-- When a visit is next, its importer is the innermost active module. -/
  innermost : ∀ id importer below, search.pending = .enter id (some importer) :: below →
    search.active.head? = some importer
  /-- A dependency that is not stored is pending for the module that requires it. -/
  waiting : ∀ importer id, search.graph.Requires importer id →
    id ∈ search.graph.ids ∨ .enter id (some importer) ∈ search.pending

namespace Held

/-- The stored modules are those of the catalogue. -/
theorem requires_iff (held : Held catalogue entry search) :
    search.graph.Requires importer id ↔ importer ∈ search.graph.ids ∧ catalogue.Requires importer id := by
  constructor
  · rintro ⟨m, found, required⟩
    have member := List.mem_of_find?_eq_some found
    obtain rfl : m.id = importer := by simpa using List.find?_some found
    exact ⟨List.mem_map_of_mem member, m, held.modules m member, required⟩
  · rintro ⟨stored, built, answered, required⟩
    obtain ⟨m, member, rfl⟩ := List.mem_map.mp stored
    cases (held.modules m member).symm.trans answered
    exact ⟨_, ModuleGraph.find?_eq_some held.unique member, required⟩

/-- An active module whose leave is next has no dependency that is still to be met, or that is active. -/
theorem leaving (held : Held catalogue entry search) (next : search.pending = .leave :: below) :
    ∃ id outer, search.active = id :: outer ∧
      ∀ dependency, .enter dependency (some id) ∉ below ∧
        (search.graph.Requires id dependency → dependency ∈ search.graph.ids ∧ dependency ∉ search.active) := by
  obtain ⟨graph, active, pending⟩ := search
  cases next
  obtain ⟨id, outer, rfl, sound, within⟩ := held.shape.leave
  -- Behind the leave only modules around `id` have visits, and `id` is none of them.
  have left (dependency : ModuleId) : .enter dependency (some id) ∉ below := fun queued =>
    (List.nodup_cons.mp held.unrepeated).1 (within.bracketed.importer_mem queued)
  refine ⟨id, outer, rfl, fun dependency => ⟨left dependency, fun edge => ?_⟩⟩
  obtain ⟨stored, edge⟩ := held.requires_iff.mp edge
  constructor
  · rcases held.waiting id stored dependency edge with there | queued
    · exact there
    · exact absurd ((List.mem_cons.mp queued).resolve_left (by simp)) (left dependency)
  · exact fun member => (sound.requires edge).acyclic (within.around edge member)

/-- The invariant of a search, said of the search alone. -/
theorem orderly (held : Held catalogue entry search) : search.Orderly entry := by
  have bracketed := held.shape.bracketed
  obtain ⟨outermost, path⟩ := held.shape.path
  have entering (above : List Visit) (id importer : ModuleId) (below : List Visit)
      (split : search.pending = above ++ .enter id (some importer) :: below) :
      search.graph.Requires importer id ∧ ∃ inner outer, search.active = inner ++ importer :: outer ∧
        below.count .leave = (importer :: outer).length := by
    obtain ⟨edge, inner, outer, cut, count⟩ := bracketed.enters split
    have stored := held.active_stored importer (by simp [cut])
    exact ⟨held.requires_iff.mpr ⟨stored, edge⟩, inner, outer, cut, count⟩
  exact {
    leaves := bracketed.count_leave
    distinct := held.unrepeated
    unique := held.unique
    stored := held.active_stored
    outermost := by rwa [List.head?_reverse]
    chain := by
      rw [List.isChain_reverse]
      refine path.imp_of_mem_imp fun next other _ member edge => ?_
      exact held.requires_iff.mpr ⟨held.active_stored other member, edge⟩
    leaving := fun below => held.leaving
    entering
    innermost := fun id importer below next => by
      obtain ⟨_, inner, outer, cut, count⟩ := entering [] id importer below next
      have leaves := bracketed.count_leave
      -- All leaves are behind the visit that is next, so that no module is active within the importer.
      rw [next, cut, List.count_cons_of_ne (by simp), count, List.length_append] at leaves
      obtain rfl : inner = [] := List.length_eq_zero_iff.mp (by omega)
      rw [cut]
      rfl
    waiting := fun importer id edge => by
      obtain ⟨stored, edge⟩ := held.requires_iff.mp edge
      exact held.waiting importer stored id edge }

end Held

end Search

end Bundler
