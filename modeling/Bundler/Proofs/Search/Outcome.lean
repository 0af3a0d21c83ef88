import Bundler.Proofs.Search.Reached
import Bundler.Proofs.Search.Run

/-!
What a search comes to. It yields a graph exactly if its entry is sound, and then the graph holds what
is reached from the entry; where it yields a cycle, the chain is one.
-/

namespace Bundler.Search

open Relation

variable {ε : Type} {catalogue : Catalogue ε} {entry id : ModuleId} {active : List ModuleId}

theorem Yields.reached {result : Except (SearchError ε) ModuleGraph}
    (yields : Yields catalogue (start entry) result) :
    ∃ final, Steps catalogue (start entry) final ∧ Held catalogue entry final ∧ Ends catalogue final result := by
  obtain ⟨final, path, ends⟩ := yields
  exact ⟨final, path, .of_steps path, ends⟩

/-- The end of a search that has no pending visits. -/
theorem Held.finished {graph : ModuleGraph} (held : Held catalogue entry ⟨graph, active, []⟩) :
    catalogue.Sound entry ∧ active = [] := by
  have shape := held.shape
  generalize none : ([] : List Visit) = pending at shape
  cases shape with
  | begins => cases none
  | works => simp at none
  | finished sound => exact ⟨sound, rfl⟩

theorem yields_ok_iff : (∃ graph, Yields catalogue (start entry) (.ok graph)) ↔ catalogue.Sound entry := by
  constructor
  · rintro ⟨graph, yields⟩
    obtain ⟨final, _, held, ends⟩ := yields.reached
    cases ends
    exact held.finished.1
  · intro sound
    have none : ∀ other ∈ ([] : List ModuleId), ¬ catalogue.Reaches entry other := by simp
    obtain ⟨after, path⟩ := sound.settles none (.refl : Steps catalogue (start entry) (start entry))
    exact ⟨after, _, path, .done⟩

/-- What a search without an error has stored is what is reached from its entry. -/
theorem Held.mem_ids_iff {graph : ModuleGraph} (held : Held catalogue entry ⟨graph, active, []⟩) :
    id ∈ graph.ids ↔ catalogue.Reaches entry id := by
  constructor
  · exact held.reached id
  · intro path
    induction path with
    | refl => simpa using held.started
    | tail _ edge ih => simpa using held.waiting _ ih _ edge

theorem Held.validates {graph : ModuleGraph} (held : Held catalogue entry ⟨graph, active, []⟩) :
    graph.validate = .ok () := by
  refine ModuleGraph.validate_ok ?_ ?_
  · rw [held.entry_eq]
    exact held.mem_ids_iff.mpr .refl
  · intro m member dependency required
    have stored : m.id ∈ graph.ids := List.mem_map_of_mem member
    have edge : catalogue.Requires m.id dependency := ⟨m, held.modules m member, required⟩
    exact held.mem_ids_iff.mpr ((held.reached _ stored).tail edge)

/-- No module is asked for twice. -/
theorem Held.asked_nodup {final : Search} {result : Except (SearchError ε) ModuleGraph}
    (held : Held catalogue entry final) (ends : Ends catalogue final result) : (asked final result).Nodup := by
  cases ends with
  | done => exact held.unique
  | cycle => exact held.unique
  | unbuilt _ stored _ =>
    simpa only [asked, List.concat_eq_append] using held.unique.concat (ModuleGraph.not_contains_iff.mp stored)

theorem Held.asked_reached {final : Search} {result : Except (SearchError ε) ModuleGraph}
    (held : Held catalogue entry final) (ends : Ends catalogue final result) :
    ∀ other ∈ asked final result, catalogue.Reaches entry other := by
  cases ends with
  | done => exact held.reached
  | cycle => exact held.reached
  | unbuilt =>
    intro other member
    rcases List.mem_append.mp member with stored | last
    · exact held.reached other stored
    · exact List.mem_singleton.mp last ▸ held.shape.reaches

/-- The path from the entry to what is met next, read from its end. -/
theorem Shaped.chain {importer : Option ModuleId} {pending : List Visit}
    (shape : Shaped catalogue entry active (.enter id importer :: pending)) :
    (id :: active).IsChain (fun next other => catalogue.Requires other next) := by
  rcases shape.enter with ⟨rfl, _⟩ | ⟨top, outer, _, built, _, _, rfl, _, _, within, answered, split, _⟩
  · exact .singleton id
  · exact .cons_cons (Catalogue.requires_next answered split) within.chain

theorem Shaped.built {pending : List Visit} (shape : Shaped catalogue entry active pending) :
    ∀ other ∈ active, ∃ built, catalogue.answer other = .ok built := by
  cases shape with
  | begins => simp
  | finished => simp
  | works within answered _ _ =>
    intro other member
    rcases List.mem_cons.mp member with rfl | member
    · exact ⟨_, answered⟩
    · exact within.built other member

theorem chainTo_eq (within : id ∈ active) : ∃ inner outer, active = inner ++ id :: outer ∧ id ∉ inner ∧
    chainTo active id = id :: inner.reverse ++ [id] := by
  obtain ⟨inner, outer, rfl, first⟩ := List.eq_append_cons_of_mem within
  refine ⟨inner, outer, rfl, first, ?_⟩
  have taken : (inner ++ id :: outer).takeWhile (· ≠ id) = inner := by
    rw [List.takeWhile_append_of_pos (fun other member => by
      simpa using fun same : other = id => first (same ▸ member))]
    simp
  rw [chainTo, taken]

/-- The chain of a cycle starts and ends with one id, and repeats no other; each of its modules requires
the next, and its first is reached from the entry. -/
theorem Yields.cycle {chain : List ModuleId} (yields : Yields catalogue (start entry) (.error (.cycle chain))) :
    2 ≤ chain.length ∧ chain.head? = chain.getLast? ∧ chain.dropLast.Nodup ∧
      (∀ other ∈ chain, ∃ built, catalogue.answer other = .ok built) ∧ chain.IsChain catalogue.Requires ∧
      ∀ first ∈ chain.head?, catalogue.Reaches entry first := by
  obtain ⟨final, _, held, ends⟩ := yields.reached
  cases ends with
  | @cycle graph active pending id importer within =>
    obtain ⟨inner, outer, rfl, first, same⟩ := chainTo_eq within
    rw [same]
    have member {other : ModuleId} (there : other ∈ id :: inner.reverse ++ [id]) :
        other ∈ inner ++ id :: outer := by
      simp only [List.cons_append, List.mem_cons, List.mem_append, List.mem_reverse] at there ⊢
      tauto
    have path : (id :: inner ++ [id]).IsChain (fun next other => catalogue.Requires other next) :=
      held.shape.chain.prefix ⟨outer, by simp⟩
    refine ⟨by simp, by rw [List.getLast?_concat]; rfl, ?_, ?_, ?_, ?_⟩
    · rw [List.dropLast_concat]
      have apart : inner.Nodup := held.unrepeated.of_append_left
      exact List.nodup_cons.mpr ⟨by simpa using first, List.nodup_reverse.mpr apart⟩
    · exact fun other there => held.shape.built other (member there)
    · rw [← List.isChain_reverse]
      simpa [flip] using path
    · intro other head
      cases head
      exact held.shape.reaches

end Bundler.Search
