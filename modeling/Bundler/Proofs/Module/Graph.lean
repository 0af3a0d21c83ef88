import Bundler.Module.Graph

/-!
What inserting a module does to the modules and ids of a graph, and what `validate` accepts.
-/

namespace Bundler.ModuleGraph

variable {graph : ModuleGraph} {m : Module} {id : ModuleId}

theorem contains_iff : graph.contains id = true ↔ id ∈ graph.ids := by
  simp [contains, ids]

theorem not_contains_iff : graph.contains id = false ↔ id ∉ graph.ids := by
  rw [← contains_iff, Bool.not_eq_true]

@[simp] theorem ids_empty (entry : ModuleId) : (empty entry).ids = [] := rfl

theorem place_fresh {stored : List Module} (fresh : m.id ∉ stored.map Module.id) :
    place m stored = stored ++ [m] := by
  induction stored with
  | nil => rfl
  | cons n rest ih =>
    simp only [List.map_cons, List.mem_cons, not_or] at fresh
    simp only [place, if_neg (Ne.symm fresh.1), ih fresh.2, List.cons_append]

/-- A module under a new id goes to the end. -/
theorem modules_insert (fresh : m.id ∉ graph.ids) : (graph.insert m).modules = graph.modules ++ [m] :=
  place_fresh fresh

theorem ids_insert (fresh : m.id ∉ graph.ids) : (graph.insert m).ids = graph.ids ++ [m.id] := by
  simp only [ids, modules_insert fresh, List.map_append, List.map_cons, List.map_nil]

/-- A module under a known id takes the place of the one that was there. -/
theorem ids_place {stored : List Module} (known : m.id ∈ stored.map Module.id) :
    (place m stored).map Module.id = stored.map Module.id := by
  induction stored with
  | nil => simp at known
  | cons n rest ih =>
    by_cases same : n.id = m.id
    · simp [place, same]
    · have later : m.id ∈ rest.map Module.id := by
        simpa [Ne.symm same] using known
      simp only [place, if_neg same, List.map_cons, ih later]

theorem ids_insert_eq (graph : ModuleGraph) (m : Module) :
    (graph.insert m).ids = if m.id ∈ graph.ids then graph.ids else graph.ids ++ [m.id] := by
  by_cases known : m.id ∈ graph.ids
  · rw [if_pos known]
    exact ids_place known
  · rw [if_neg known, ids_insert known]

theorem mem_ids_insert : id ∈ (graph.insert m).ids ↔ id ∈ graph.ids ∨ id = m.id := by
  rw [ids_insert_eq]
  split
  · next known => exact ⟨.inl, fun found => found.elim (fun before => before) fun same => same ▸ known⟩
  · simp

theorem nodup_ids_insert (unique : graph.ids.Nodup) : (graph.insert m).ids.Nodup := by
  rw [ids_insert_eq]
  split
  · exact unique
  · next fresh =>
    have apart : ∀ id ∈ graph.ids, ∀ other ∈ [m.id], id ≠ other := by
      rintro id member _ (_ | ⟨_, ⟨⟩⟩) rfl
      exact fresh member
    exact List.nodup_append.mpr ⟨unique, by simp, apart⟩

theorem find?_eq_some (unique : graph.ids.Nodup) (member : m ∈ graph.modules) :
    graph.find? m.id = some m := by
  obtain ⟨entry, modules⟩ := graph
  simp only [ids, find?] at *
  induction modules with
  | nil => simp at member
  | cons n rest ih =>
    simp only [List.map_cons, List.nodup_cons] at unique
    rcases List.mem_cons.mp member with rfl | later
    · simp
    · have other : n.id ≠ m.id := fun same => unique.1 (same ▸ List.mem_map_of_mem later)
      simpa [other] using ih unique.2 later

theorem missingOf?_eq_none_iff : graph.missingOf? m = none ↔ ∀ dependency ∈ m.dependencies, dependency ∈ graph.ids := by
  simp [missingOf?, contains_iff]

theorem missingOf?_eq_some_iff : graph.missingOf? m = some id ↔ ∃ front back, m.dependencies = front ++ id :: back ∧
    (∀ dependency ∈ front, dependency ∈ graph.ids) ∧ id ∉ graph.ids := by
  simp only [missingOf?, List.find?_eq_some_iff_append, Bool.not_eq_true', Bool.not_not, contains_iff, not_contains_iff]
  exact ⟨fun ⟨absent, front, back, needs, stored⟩ => ⟨front, back, needs, stored, absent⟩,
    fun ⟨front, back, needs, stored, absent⟩ => ⟨absent, front, back, needs, stored⟩⟩

/-- The first module that lacks something, with the first that it lacks. -/
def lack? (graph : ModuleGraph) : Option (ModuleId × ModuleId) :=
  graph.modules.findSome? fun m => (graph.missingOf? m).map (m.id, ·)

theorem lack?_eq_none_iff : graph.lack? = none ↔
    ∀ m ∈ graph.modules, ∀ dependency ∈ m.dependencies, dependency ∈ graph.ids := by
  simp only [lack?, List.findSome?_eq_none_iff, Option.map_eq_none_iff, missingOf?_eq_none_iff]

theorem lack?_eq_some_iff {importer missing : ModuleId} : graph.lack? = some (importer, missing) ↔
    ∃ before m after front back, graph.modules = before ++ m :: after ∧
      (∀ n ∈ before, ∀ dependency ∈ n.dependencies, dependency ∈ graph.ids) ∧ m.id = importer ∧
      m.dependencies = front ++ missing :: back ∧ (∀ dependency ∈ front, dependency ∈ graph.ids) ∧
      missing ∉ graph.ids := by
  simp only [lack?, List.findSome?_eq_some_iff, Option.map_eq_none_iff, Option.map_eq_some_iff, missingOf?_eq_none_iff,
    missingOf?_eq_some_iff, Prod.mk.injEq]
  constructor
  · rintro ⟨before, m, after, cut, ⟨_, ⟨front, back, needs, stored, absent⟩, named, rfl⟩, closed⟩
    exact ⟨before, m, after, front, back, cut, closed, named, needs, stored, absent⟩
  · rintro ⟨before, m, after, front, back, cut, closed, named, needs, stored, absent⟩
    exact ⟨before, m, after, cut, ⟨missing, ⟨front, back, needs, stored, absent⟩, named, rfl⟩, closed⟩

/-- All that the check can say. -/
theorem validate_cases (graph : ModuleGraph) :
    (graph.entry ∉ graph.ids ∧ graph.validate = .error (.entry graph.entry)) ∨
    (graph.entry ∈ graph.ids ∧ graph.lack? = none ∧ graph.validate = .ok ()) ∨
    ∃ importer missing, graph.entry ∈ graph.ids ∧ graph.lack? = some (importer, missing) ∧
      graph.validate = .error (.dependency importer missing) := by
  rw [validate, ← lack?]
  simp only [contains_iff]
  by_cases started : graph.entry ∈ graph.ids
  · cases found : graph.lack? with
    | none => simp [started]
    | some lack => simp [started]
  · simp [started]

/-- A graph passes the check exactly if nothing is missing in it. -/
theorem validate_ok_iff : graph.validate = .ok () ↔
    graph.entry ∈ graph.ids ∧ ∀ m ∈ graph.modules, ∀ dependency ∈ m.dependencies, dependency ∈ graph.ids := by
  rw [← lack?_eq_none_iff]
  rcases graph.validate_cases with ⟨absent, told⟩ | ⟨started, none, told⟩ | ⟨_, _, started, found, told⟩ <;> simp [*]

/-- A graph in which nothing is missing passes the check. -/
theorem validate_ok (started : graph.entry ∈ graph.ids)
    (closed : ∀ m ∈ graph.modules, ∀ dependency ∈ m.dependencies, dependency ∈ graph.ids) :
    graph.validate = .ok () :=
  validate_ok_iff.mpr ⟨started, closed⟩

theorem validate_entry_iff : graph.validate = .error (.entry id) ↔ id = graph.entry ∧ graph.entry ∉ graph.ids := by
  rcases graph.validate_cases with ⟨absent, told⟩ | ⟨started, none, told⟩ | ⟨_, _, started, found, told⟩ <;>
    simp [*, eq_comm]

/-- The check blames the first module that lacks something, and tells the first that it lacks. -/
theorem validate_dependency_iff {importer missing : ModuleId} :
    graph.validate = .error (.dependency importer missing) ↔ graph.entry ∈ graph.ids ∧
      graph.lack? = some (importer, missing) := by
  rcases graph.validate_cases with ⟨absent, told⟩ | ⟨started, none, told⟩ | ⟨_, _, started, found, told⟩ <;> simp [*]

/-- Inserting changes what is stored under the id of the module, and nothing else. -/
theorem find?_insert (graph : ModuleGraph) (m : Module) (id : ModuleId) :
    (graph.insert m).find? id = if m.id = id then some m else graph.find? id := by
  obtain ⟨entry, stored⟩ := graph
  simp only [find?, insert]
  induction stored with
  | nil => by_cases same : m.id = id <;> simp [place, same]
  | cons n rest ih =>
    by_cases taken : n.id = m.id
    · by_cases same : m.id = id <;> simp [place, taken, same]
    rw [place, if_neg taken]
    by_cases first : n.id = id
    · have other : m.id ≠ id := fun same => taken (first.trans same.symm)
      simp [first, other]
    · simpa [first] using ih

end Bundler.ModuleGraph
