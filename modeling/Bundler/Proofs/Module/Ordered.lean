import Bundler.Proofs.Module.Graph
import Mathlib.Data.List.Basic
import Mathlib.Data.List.Induction

/-!
A module graph as an ordered map. Whatever has been put into it, the graph holds the last module under each id, in the
order in which the ids came first, and the check looks at these modules alone.
-/

namespace Bundler.ModuleGraph

/-- The graph that modules have been put into, one after another. -/
def ofModules (entry : ModuleId) (put : List Module) : ModuleGraph := put.foldl insert (empty entry)

/-- The last module of a list under an id. -/
def latest? (put : List Module) (id : ModuleId) : Option Module := put.reverse.find? (·.id = id)

theorem latest?_concat (put : List Module) (m : Module) (id : ModuleId) :
    latest? (put ++ [m]) id = if m.id = id then some m else latest? put id := by
  by_cases same : m.id = id <;> simp [latest?, same]

section

variable (entry : ModuleId) (put : List Module)

theorem ofModules_concat (m : Module) : ofModules entry (put ++ [m]) = (ofModules entry put).insert m := by
  simp [ofModules]

theorem entry_ofModules : (ofModules entry put).entry = entry := by
  induction put using List.reverseRecOn with
  | nil => rfl
  | append_singleton before m ih =>
    rw [ofModules_concat]
    exact ih

theorem mem_ids_ofModules (id : ModuleId) : id ∈ (ofModules entry put).ids ↔ id ∈ put.map Module.id := by
  induction put using List.reverseRecOn with
  | nil => simp [ofModules]
  | append_singleton before m ih => simp [ofModules_concat, mem_ids_insert, ih]

theorem nodup_ids_ofModules : (ofModules entry put).ids.Nodup := by
  induction put using List.reverseRecOn with
  | nil => exact List.nodup_nil
  | append_singleton before m ih =>
    rw [ofModules_concat]
    exact nodup_ids_insert ih

/-- The ids stand in the order in which they came first. -/
theorem pairwise_ids_ofModules : (ofModules entry put).ids.Pairwise fun id other =>
    (put.map Module.id).idxOf id < (put.map Module.id).idxOf other := by
  induction put using List.reverseRecOn with
  | nil => exact .nil
  | append_singleton before m ih =>
    have stays (id : ModuleId) (known : id ∈ (ofModules entry before).ids) :
        ((before ++ [m]).map Module.id).idxOf id = (before.map Module.id).idxOf id := by
      rw [List.map_append, List.idxOf_append_of_mem ((mem_ids_ofModules ..).mp known)]
    have old : (ofModules entry before).ids.Pairwise fun id other =>
        ((before ++ [m]).map Module.id).idxOf id < ((before ++ [m]).map Module.id).idxOf other :=
      ih.imp_of_mem fun known known' first => by rwa [stays _ known, stays _ known']
    rw [ofModules_concat, ids_insert_eq]
    split
    · exact old
    · next fresh =>
      refine List.pairwise_append.mpr ⟨old, List.pairwise_singleton .., fun id known other last => ?_⟩
      obtain rfl := List.mem_singleton.mp last
      have late : m.id ∉ before.map Module.id := fun found => fresh ((mem_ids_ofModules ..).mpr found)
      rw [stays id known, List.map_append, List.idxOf_append_of_notMem late]
      exact Nat.lt_of_lt_of_le (List.idxOf_lt_length_of_mem ((mem_ids_ofModules ..).mp known)) (Nat.le_add_right ..)

theorem find?_ofModules (id : ModuleId) : (ofModules entry put).find? id = latest? put id := by
  induction put using List.reverseRecOn with
  | nil => rfl
  | append_singleton before m ih => rw [ofModules_concat, find?_insert, latest?_concat, ih]

/-- The modules of the graph are the last ones under its ids. -/
theorem map_some_modules_ofModules :
    (ofModules entry put).modules.map some = (ofModules entry put).ids.map (latest? put) := by
  rw [ids, List.map_map]
  refine List.map_congr_left fun m member => ?_
  rw [Function.comp_apply, ← find?_ofModules entry, find?_eq_some (nodup_ids_ofModules entry put) member]

/-- Whatever modules have been put into a graph, it lists their ids in the order in which they came first, and has under
each id the last module, which is what putting in another one hands back. The check passes exactly if the entry and all
that these last modules depend on are there; otherwise it tells the entry, or the first of the modules that lacks
something and the first that this one lacks. -/
theorem ofModules_ordered_map :
    let graph := ofModules entry put
    (graph.ids.Nodup ∧ (∀ id, id ∈ graph.ids ↔ id ∈ put.map Module.id) ∧
      graph.ids.Pairwise fun id other => (put.map Module.id).idxOf id < (put.map Module.id).idxOf other) ∧
    (∀ id, graph.find? id = latest? put id) ∧
    (∀ m, graph.replace m = (latest? put m.id, ofModules entry (put ++ [m]))) ∧
    (graph.modules.map some = graph.ids.map (latest? put) ∧ ∀ id m, graph.find? id = some m → m.id = id) ∧
    (graph.validate = .ok () ↔
      entry ∈ graph.ids ∧ ∀ m ∈ graph.modules, ∀ dependency ∈ m.dependencies, dependency ∈ graph.ids) ∧
    (∀ id, graph.validate = .error (.entry id) ↔ id = entry ∧ entry ∉ graph.ids) ∧
    ∀ importer missing, graph.validate = .error (.dependency importer missing) ↔ entry ∈ graph.ids ∧
      ∃ before m after front back, graph.modules = before ++ m :: after ∧
        (∀ n ∈ before, ∀ dependency ∈ n.dependencies, dependency ∈ graph.ids) ∧ m.id = importer ∧
        m.dependencies = front ++ missing :: back ∧ (∀ dependency ∈ front, dependency ∈ graph.ids) ∧
        missing ∉ graph.ids := by
  intro graph
  have started : graph.entry = entry := entry_ofModules entry put
  have found (id : ModuleId) : graph.find? id = latest? put id := find?_ofModules entry put id
  refine ⟨⟨nodup_ids_ofModules entry put, mem_ids_ofModules entry put, pairwise_ids_ofModules entry put⟩, found,
    fun m => ?_, ⟨map_some_modules_ofModules entry put, fun id m there => ?_⟩, ?_, fun id => ?_, fun importer missing => ?_⟩
  · rw [replace, found, ofModules_concat]
  · rw [found, latest?] at there
    simpa using List.find?_some there
  · rw [← started]
    exact validate_ok_iff
  · rw [← started]
    exact validate_entry_iff
  · rw [← started, validate_dependency_iff, lack?_eq_some_iff]

end

/-- What the module that was put in again has lacked before does not count, and of two modules that lack something the one
that came first is told. -/
theorem ofModules_ordered_map_again :
    let a : ModuleId := ⟨"./a.js"⟩
    let b : ModuleId := ⟨"./b.js"⟩
    let c : ModuleId := ⟨"./c.js"⟩
    let again : Module := ⟨a, ⟨"/p/a.js"⟩, "new", [b, c]⟩
    let put : List Module := [⟨b, ⟨"/p/b.js"⟩, "", [a, ⟨"./x.js"⟩, ⟨"./y.js"⟩]⟩, ⟨a, ⟨"/p/a.js"⟩, "old", [⟨"./z.js"⟩]⟩,
      ⟨c, ⟨"/p/c.js"⟩, "", [⟨"./y.js"⟩]⟩, again]
    (ofModules a put).ids = [b, a, c] ∧ (ofModules a put).find? a = some again ∧ again.id = a ∧
      (ofModules a put).validate = .error (.dependency b ⟨"./x.js"⟩) := by
  intro a b c again put
  obtain ⟨_, found, _, ⟨_, keyed⟩, _, _, blames⟩ := ofModules_ordered_map a put
  have there : (ofModules a put).find? a = some again := by
    rw [found]
    decide +kernel
  refine ⟨by decide +kernel, there, keyed a again there, (blames b ⟨"./x.js"⟩).mpr ⟨by decide +kernel, ?_⟩⟩
  exact ⟨[], _, _, [a], [⟨"./y.js"⟩], rfl, by simp, rfl, rfl, by decide +kernel, by decide +kernel⟩

end Bundler.ModuleGraph
