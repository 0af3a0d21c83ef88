import Bundler.Proofs.Search.Sound

/-!
What holds of every state that a search comes to. The active modules are the path by which the search
came to the module at work, and what is pending is cut into one piece for each of them.
-/

namespace Bundler.Search

open Relation

variable {ε : Type} {catalogue : Catalogue ε} {entry : ModuleId}

/-- A search at work on an id, which it came to through the modules `outer`, the innermost first. When
the id is finished, `later` is still pending: each of them waits for what it requires behind the next
module, and what it requires before that one is sound. -/
inductive Within (catalogue : Catalogue ε) (entry : ModuleId) : ModuleId → List ModuleId → List Visit → Prop
  | entry : Within catalogue entry entry [] []
  | dependency {id importer outer later built handled waiting} :
      Within catalogue entry importer outer later → catalogue.answer importer = .ok built →
      built.dependencies = handled ++ id :: waiting → (∀ other ∈ handled, catalogue.Sound other) →
      Within catalogue entry id (importer :: outer) (waiting.map (.enter · (some importer)) ++ .leave :: later)

/-- The active modules of a search and what is pending, before its first step, at work on a module,
and after its last step. -/
inductive Shaped (catalogue : Catalogue ε) (entry : ModuleId) : List ModuleId → List Visit → Prop
  | begins : Shaped catalogue entry [] [.enter entry none]
  | works {id outer later built handled waiting} :
      Within catalogue entry id outer later → catalogue.answer id = .ok built →
      built.dependencies = handled ++ waiting → (∀ other ∈ handled, catalogue.Sound other) →
      Shaped catalogue entry (id :: outer) (waiting.map (.enter · (some id)) ++ .leave :: later)
  | finished : catalogue.Sound entry → Shaped catalogue entry [] []

namespace Within

variable {id importer : ModuleId} {outer : List ModuleId} {later : List Visit}

theorem reaches (within : Within catalogue entry id outer later) : catalogue.Reaches entry id := by
  induction within with
  | entry => exact .refl
  | dependency _ answered split _ ih => exact ih.tail (Catalogue.requires_next answered split)

theorem built (within : Within catalogue entry id outer later) :
    ∀ other ∈ outer, ∃ built, catalogue.answer other = .ok built := by
  induction within with
  | entry => simp
  | dependency _ answered _ _ ih =>
    intro other member
    rcases List.mem_cons.mp member with rfl | member
    · exact ⟨_, answered⟩
    · exact ih other member

/-- The path from the entry to the id at work, read from its end. -/
theorem chain (within : Within catalogue entry id outer later) :
    (id :: outer).IsChain (fun next other => catalogue.Requires other next) := by
  induction within with
  | entry => exact .singleton _
  | dependency _ answered split _ ih => exact .cons_cons (Catalogue.requires_next answered split) ih

theorem getLast?_eq (within : Within catalogue entry id outer later) : (id :: outer).getLast? = some entry := by
  induction within with
  | entry => rfl
  | dependency _ _ _ _ ih => rw [List.getLast?_cons_cons, ih]

theorem requires (within : Within catalogue entry id outer later) :
    ∀ other ∈ outer, TransGen catalogue.Requires other id := by
  induction within with
  | entry => simp
  | dependency _ answered split _ ih =>
    have edge := Catalogue.requires_next answered split
    intro other member
    rcases List.mem_cons.mp member with rfl | member
    · exact .single edge
    · exact (ih other member).tail edge

/-- An active module that the innermost one requires gets back to itself. -/
theorem around {next : ModuleId} (within : Within catalogue entry id outer later) (edge : catalogue.Requires id next)
    (member : next ∈ id :: outer) : TransGen catalogue.Requires next next := by
  rcases List.mem_cons.mp member with rfl | above
  · exact .single edge
  · exact (within.requires next above).tail edge

/-- Behind a sound dependency the search is at work on the rest of its importer. -/
theorem past {built : Module} {handled waiting : List ModuleId} (within : Within catalogue entry importer outer later)
    (answered : catalogue.answer importer = .ok built) (split : built.dependencies = handled ++ id :: waiting)
    (before : ∀ other ∈ handled, catalogue.Sound other) (sound : catalogue.Sound id) :
    Shaped catalogue entry (importer :: outer) (waiting.map (.enter · (some importer)) ++ .leave :: later) := by
  have split' : built.dependencies = (handled ++ [id]) ++ waiting := by simp [split]
  refine .works within answered split' fun other member => ?_
  rcases List.mem_append.mp member with member | member
  · exact before other member
  · rwa [List.mem_singleton.mp member]

/-- When the id at work turns out to be sound, the search goes on in the shape of a search. -/
theorem finish (within : Within catalogue entry id outer later) (sound : catalogue.Sound id) :
    Shaped catalogue entry outer later := by
  cases within with
  | entry => exact .finished sound
  | dependency before answered split handled => exact before.past answered split handled sound

end Within

namespace Shaped

variable {id : ModuleId} {importer : Option ModuleId} {active : List ModuleId} {pending : List Visit}

/-- A search leaves the innermost active module, which is sound by then. -/
theorem leave (shape : Shaped catalogue entry active (.leave :: pending)) :
    ∃ id outer, active = id :: outer ∧ catalogue.Sound id ∧ Within catalogue entry id outer pending := by
  generalize same : Visit.leave :: pending = all at shape
  cases shape with
  | begins => cases same
  | finished => cases same
  | @works id outer later built handled waiting within answered split sound =>
    cases waiting with
    | cons next waiting => cases same
    | nil =>
      cases same
      exact ⟨id, outer, rfl, .intro answered (by simpa [split] using sound), within⟩

/-- The first visit pending is that of the entry, or of the next dependency of the module at work. -/
theorem enter (shape : Shaped catalogue entry active (.enter id importer :: pending)) :
    (active = [] ∧ pending = [] ∧ id = entry ∧ importer = none) ∨
      ∃ top outer later built handled waiting, active = top :: outer ∧ importer = some top ∧
        pending = waiting.map (.enter · (some top)) ++ .leave :: later ∧
        Within catalogue entry top outer later ∧ catalogue.answer top = .ok built ∧
        built.dependencies = handled ++ id :: waiting ∧ ∀ other ∈ handled, catalogue.Sound other := by
  generalize same : Visit.enter id importer :: pending = all at shape
  cases shape with
  | begins => cases same; exact .inl ⟨rfl, rfl, rfl, rfl⟩
  | finished => cases same
  | @works top outer later built handled waiting within answered split sound =>
    cases waiting with
    | nil => cases same
    | cons next waiting =>
      cases same
      exact .inr ⟨top, outer, later, built, handled, waiting, rfl, rfl, rfl, within, answered, split, sound⟩

theorem reaches (shape : Shaped catalogue entry active (.enter id importer :: pending)) :
    catalogue.Reaches entry id := by
  rcases shape.enter with ⟨_, _, rfl, _⟩ |
    ⟨top, _, _, built, _, _, _, _, _, within, answered, split, _⟩
  · exact .refl
  · exact within.reaches.tail (Catalogue.requires_next answered split)

theorem skip (shape : Shaped catalogue entry active (.enter id importer :: pending))
    (sound : catalogue.Sound id) : Shaped catalogue entry active pending := by
  rcases shape.enter with ⟨rfl, rfl, rfl, _⟩ |
    ⟨top, outer, later, built, handled, waiting, rfl, _, rfl, within, answered, split, before⟩
  · exact .finished sound
  · exact within.past answered split before sound

theorem adopt {built : Module} (shape : Shaped catalogue entry active (.enter id importer :: pending))
    (answered : catalogue.answer id = .ok built) :
    Shaped catalogue entry (id :: active) (built.dependencies.map (.enter · (some id)) ++ .leave :: pending) := by
  have within : Within catalogue entry id active pending := by
    rcases shape.enter with ⟨rfl, rfl, rfl, _⟩ |
      ⟨top, outer, later, _, handled, waiting, rfl, _, rfl, within, before, split, sound⟩
    · exact .entry
    · exact .dependency within before split sound
  have none : built.dependencies = [] ++ built.dependencies := rfl
  exact .works within answered none (by simp)

end Shaped

/-- The invariant of a search: its shape, and what is stored in its graph. -/
structure Held (catalogue : Catalogue ε) (entry : ModuleId) (search : Search) : Prop where
  entry_eq : search.graph.entry = entry
  shape : Shaped catalogue entry search.active search.pending
  modules : ∀ m ∈ search.graph.modules, catalogue.answer m.id = .ok m
  unique : search.graph.ids.Nodup
  unrepeated : search.active.Nodup
  active_stored : ∀ id ∈ search.active, id ∈ search.graph.ids
  sound : ∀ id ∈ search.graph.ids, id ∈ search.active ∨ catalogue.Sound id
  reached : ∀ id ∈ search.graph.ids, catalogue.Reaches entry id
  /-- What a stored module requires is stored, or pending for that module. -/
  waiting : ∀ id ∈ search.graph.ids, ∀ next, catalogue.Requires id next →
    next ∈ search.graph.ids ∨ .enter next (some id) ∈ search.pending
  started : entry ∈ search.graph.ids ∨ .enter entry none ∈ search.pending

namespace Held

variable {search next : Search}

theorem start (catalogue : Catalogue ε) (entry : ModuleId) : Held catalogue entry (start entry) where
  entry_eq := rfl
  shape := .begins
  modules := by simp [Search.start, ModuleGraph.empty]
  unique := by simp [Search.start]
  unrepeated := by simp [Search.start]
  active_stored := by simp [Search.start]
  sound := by simp [Search.start]
  reached := by simp [Search.start]
  waiting := by simp [Search.start]
  started := .inr (by simp [Search.start])

/-- A visit that is pending still is when the next one is over, unless that was one of the same id. -/
theorem stored_or_pending {ids : List ModuleId} {pending : List Visit} {id next : ModuleId}
    {importer asker : Option ModuleId} (stored : id ∈ ids)
    (queued : .enter next asker ∈ Visit.enter id importer :: pending) : next ∈ ids ∨ .enter next asker ∈ pending := by
  rcases List.mem_cons.mp queued with same | later
  · cases same; exact .inl stored
  · exact .inr later

theorem leave {graph : ModuleGraph} {active : List ModuleId} {pending : List Visit}
    (held : Held catalogue entry ⟨graph, active, .leave :: pending⟩) :
    Held catalogue entry ⟨graph, active.tail, pending⟩ := by
  obtain ⟨id, outer, rfl, sound, within⟩ := held.shape.leave
  exact {
    entry_eq := held.entry_eq
    shape := within.finish sound
    modules := held.modules
    unique := held.unique
    unrepeated := held.unrepeated.of_cons
    active_stored := fun other member => held.active_stored other (List.mem_cons_of_mem id member)
    sound := fun other member => by
      rcases held.sound other member with within | sound'
      · rcases List.mem_cons.mp within with rfl | within
        · exact .inr sound
        · exact .inl within
      · exact .inr sound'
    reached := held.reached
    waiting := fun other member next edge => by simpa using held.waiting other member next edge
    started := by simpa using held.started }

theorem skip {graph : ModuleGraph} {active : List ModuleId} {pending : List Visit} {id : ModuleId}
    {importer : Option ModuleId} (held : Held catalogue entry ⟨graph, active, .enter id importer :: pending⟩)
    (fresh : id ∉ active) (stored : id ∈ graph.ids) : Held catalogue entry ⟨graph, active, pending⟩ := by
  have sound : catalogue.Sound id := (held.sound id stored).resolve_left fresh
  exact {
    entry_eq := held.entry_eq
    shape := held.shape.skip sound
    modules := held.modules
    unique := held.unique
    unrepeated := held.unrepeated
    active_stored := held.active_stored
    sound := held.sound
    reached := held.reached
    waiting := fun other member next edge => by
      rcases held.waiting other member next edge with there | queued
      · exact .inl there
      · exact stored_or_pending stored queued
    started := by
      rcases held.started with there | queued
      · exact .inl there
      · exact stored_or_pending stored queued }

theorem adopt {graph : ModuleGraph} {active : List ModuleId} {pending : List Visit} {id : ModuleId}
    {importer : Option ModuleId} {built : Module}
    (held : Held catalogue entry ⟨graph, active, .enter id importer :: pending⟩)
    (fresh : id ∉ active) (unstored : id ∉ graph.ids) (answered : catalogue.answer id = .ok built) :
    Held catalogue entry ⟨graph.insert built, id :: active,
      built.dependencies.map (.enter · (some id)) ++ .leave :: pending⟩ := by
  have bears := catalogue.bears answered
  have modules : (graph.insert built).modules = graph.modules ++ [built] :=
    ModuleGraph.modules_insert (by rwa [bears])
  have split {other : ModuleId} : other ∈ (graph.insert built).ids ↔ other ∈ graph.ids ∨ other = id := by
    rw [ModuleGraph.mem_ids_insert, bears]
  have keeps {other : ModuleId} (member : other ∈ graph.ids) : other ∈ (graph.insert built).ids :=
    split.mpr (.inl member)
  have new : id ∈ (graph.insert built).ids := split.mpr (.inr rfl)
  have behind {visit : Visit} (later : visit ∈ pending) :
      visit ∈ built.dependencies.map (.enter · (some id)) ++ .leave :: pending :=
    List.mem_append_right _ (List.mem_cons_of_mem _ later)
  exact {
    entry_eq := held.entry_eq
    shape := held.shape.adopt answered
    modules := fun m member => by
      simp only [modules, List.mem_append, List.mem_singleton] at member
      rcases member with member | rfl
      · exact held.modules m member
      · rwa [bears]
    unique := ModuleGraph.nodup_ids_insert held.unique
    unrepeated := List.nodup_cons.mpr ⟨fresh, held.unrepeated⟩
    active_stored := fun other member => by
      rcases List.mem_cons.mp member with rfl | member
      · exact new
      · exact keeps (held.active_stored other member)
    sound := fun other member => by
      rcases split.mp member with member | rfl
      · exact (held.sound other member).imp_left (List.mem_cons_of_mem id)
      · exact .inl (List.mem_cons_self ..)
    reached := fun other member => by
      rcases split.mp member with member | rfl
      · exact held.reached other member
      · exact held.shape.reaches
    waiting := fun other member next edge => by
      rcases split.mp member with member | rfl
      · rcases held.waiting other member next edge with there | queued
        · exact .inl (keeps there)
        · exact (stored_or_pending new queued).imp_right behind
      · have required := (Catalogue.requires_iff answered).mp edge
        exact .inr (List.mem_append_left _ (List.mem_map.mpr ⟨next, required, rfl⟩))
    started := by
      rcases held.started with there | queued
      · exact .inl (keeps there)
      · exact (stored_or_pending new queued).imp_right behind }

theorem step (held : Held catalogue entry search) (step : Step catalogue search next) :
    Held catalogue entry next := by
  cases step with
  | leave => exact held.leave
  | skip fresh stored => exact held.skip fresh (ModuleGraph.contains_iff.mp stored)
  | adopt fresh unstored answered => exact held.adopt fresh (ModuleGraph.not_contains_iff.mp unstored) answered

/-- The invariant holds of every state that a search comes to. -/
theorem of_steps (path : Steps catalogue (Search.start entry) search) : Held catalogue entry search := by
  induction path with
  | refl => exact .start catalogue entry
  | tail _ last ih => exact ih.step last

end Held

end Bundler.Search
