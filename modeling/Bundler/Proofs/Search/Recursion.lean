import Bundler.Proofs.Search.Outcome
import Bundler.Proofs.Search.Run

/-!
The search by plain recursion: a module is built and stored when it is first met, and then its
dependencies are visited by calls, one after the other. The pending visits of a search do the same
work in the same order, on any state that a builder works on.
-/

namespace Bundler.Search

section Definitions

variable {m : Type → Type} [Monad m] {ε : Type}

/-- Visits ids one after the other, up to the first that gives no graph. -/
def inTurn (visit : ModuleGraph → ModuleId → m (Option (Except (SearchError ε) ModuleGraph))) :
    ModuleGraph → List ModuleId → m (Option (Except (SearchError ε) ModuleGraph))
  | graph, [] => return some (.ok graph)
  | graph, id :: rest => do
    match ← visit graph id with
    | some (.ok graph) => inTurn visit graph rest
    | other => return other

/-- The visit of a module by recursion, at most so deep; no result means that it goes deeper. The
calls that are open are the `chain`, the outermost first. -/
def explore (builder : Builder m ε) : Nat → List ModuleId → ModuleGraph → ModuleId → Option ModuleId →
    m (Option (Except (SearchError ε) ModuleGraph))
  | 0, _, _, _, _ => return none
  | depth + 1, chain, graph, id, importer => do
    if chain.contains id then return some (.error (.cycle (chain.dropWhile (· ≠ id) ++ [id])))
    if graph.contains id then
      builder.tell (.skipped id)
      return some (.ok graph)
    match ← builder.build id with
    | .error cause => return some (.error (.unbuilt id importer cause))
    | .ok built =>
      let visit (graph : ModuleGraph) (next : ModuleId) := explore builder depth (chain ++ [id]) graph next (some id)
      match ← inTurn visit (graph.insert built) built.dependencies with
      | some (.ok graph) => do
        builder.tell (.finished id)
        return some (.ok graph)
      | other => return other

end Definitions

open Relation

variable {ε σ : Type} {builder : Builder (StateM σ) ε} {graph : ModuleGraph} {chain active : List ModuleId}
  {id : ModuleId} {importer : Option ModuleId} {w v : σ} {depth : Nat}

theorem explore_cycle (within : id ∈ chain) : (explore builder (depth + 1) chain graph id importer).run w =
    (some (.error (.cycle (chain.dropWhile (· ≠ id) ++ [id]))), w) := by
  simp [explore, within]
  rfl

theorem explore_skip (fresh : id ∉ chain) (stored : graph.contains id = true) :
    (explore builder (depth + 1) chain graph id importer).run w =
      (some (.ok graph), ((builder.tell (.skipped id)).run w).2) := by
  simp [explore, fresh, stored]
  rfl

theorem explore_unbuilt {cause : ε} (fresh : id ∉ chain) (stored : graph.contains id = false)
    (asks : (builder.build id).run w = (.error cause, v)) :
    (explore builder (depth + 1) chain graph id importer).run w =
      (some (.error (.unbuilt id importer cause)), v) := by
  simp [explore, fresh, stored, asks]
  rfl

/-- The end of a call, where a graph comes of those below it. -/
def finish (builder : Builder (StateM σ) ε) (id : ModuleId) :
    Option (Except (SearchError ε) ModuleGraph) × σ → Option (Except (SearchError ε) ModuleGraph) × σ
  | (some (.ok graph), v) => (some (.ok graph), ((builder.tell (.finished id)).run v).2)
  | other => other

/-- The recursion behind a module that has been built. -/
theorem explore_adopt {built : Module} (fresh : id ∉ chain) (stored : graph.contains id = false)
    (asks : (builder.build id).run w = (.ok built, v)) :
    (explore builder (depth + 1) chain graph id importer).run w =
      finish builder id ((inTurn (fun graph next => explore builder depth (chain ++ [id]) graph next (some id))
        (graph.insert built) built.dependencies).run v) := by
  have open_ : chain.contains id = false := by simpa using fresh
  rw [explore]
  simp only [open_, stored, Bool.false_eq_true, if_false]
  rw [run_bind_of asks]
  simp only
  rcases below : (inTurn (fun graph next => explore builder depth (chain ++ [id]) graph next (some id))
    (graph.insert built) built.dependencies).run v with ⟨answer, u⟩
  rw [run_bind_of below]
  rcases answer with _ | _ | graph <;> rfl

/-- The chain of open calls from an id on is the chain of active modules, which are kept the other way
round. -/
theorem chainTo_reverse (unrepeated : chain.Nodup) (within : id ∈ chain) :
    chainTo chain.reverse id = chain.dropWhile (· ≠ id) ++ [id] := by
  obtain ⟨outer, inner, rfl, first⟩ := List.eq_append_cons_of_mem within
  have last : id ∉ inner := by
    have apart := (List.nodup_append.mp unrepeated).2.1
    exact (List.nodup_cons.mp apart).1
  have before : ∀ other ∈ outer, decide (other ≠ id) = true := fun other member => by
    simpa using fun same : other = id => first (same ▸ member)
  have behind : ∀ other ∈ inner.reverse, decide (other ≠ id) = true := fun other member => by
    simpa using fun same : other = id => last (same ▸ List.mem_reverse.mp member)
  have dropped : (outer ++ id :: inner).dropWhile (· ≠ id) = id :: inner := by
    rw [List.dropWhile_append_of_pos before]
    simp
  have taken : (outer ++ id :: inner).reverse.takeWhile (· ≠ id) = inner.reverse := by
    rw [List.reverse_append, List.reverse_cons, List.append_assoc, List.takeWhile_append_of_pos behind]
    simp
  rw [chainTo, taken, dropped, List.reverse_reverse]

/-- A run goes on as the answer of a recursion says: with its graph, from its state and with the visits
`pending`, or it ends with its error. Where there is no answer nothing is said. -/
def GoesOn (builder : Builder (StateM σ) ε) (search : Search) (w : σ) (active : List ModuleId)
    (pending : List Visit) : Option (Except (SearchError ε) ModuleGraph) × σ → Prop
  | (none, _) => True
  | (some (.ok graph), v) => ∃ used, ∀ steps,
      (run builder (used + steps) search).run w = (run builder steps ⟨graph, active, pending⟩).run v
  | (some (.error e), v) => ∃ used, ∀ steps, (run builder (used + steps) search).run w = (some (.error e), v)

/-- What goes on from a later state of a run goes on from the run. -/
theorem GoesOn.behind {search next : Search} {pending : List Visit} {used : Nat}
    {answer : Option (Except (SearchError ε) ModuleGraph) × σ} (goesOn : GoesOn builder next v active pending answer)
    (leads : ∀ steps, (run builder (used + steps) search).run w = (run builder steps next).run v) :
    GoesOn builder search w active pending answer := by
  rcases answer with ⟨_ | e | graph, u⟩
  · trivial
  · obtain ⟨more, ends⟩ := goesOn
    refine ⟨used + more, fun steps => ?_⟩
    rw [Nat.add_assoc, leads, ends]
  · obtain ⟨more, ends⟩ := goesOn
    refine ⟨used + more, fun steps => ?_⟩
    rw [Nat.add_assoc, leads, ends]

/-- The innermost active module is left where its call ends. -/
theorem GoesOn.leave {search : Search} {pending : List Visit}
    {answer : Option (Except (SearchError ε) ModuleGraph) × σ}
    (goesOn : GoesOn builder search w (id :: active) (.leave :: pending) answer) :
    GoesOn builder search w active pending (finish builder id answer) := by
  rcases answer with ⟨_ | e | after, u⟩
  · trivial
  · exact goesOn
  · obtain ⟨used, runs⟩ := goesOn
    refine ⟨used + 1, fun steps => ?_⟩
    have count : used + 1 + steps = used + (steps + 1) := by omega
    rw [count, runs, run_leave]

/-- Where nothing is pending behind it, a run ends as the recursion does. -/
theorem GoesOn.ends {search : Search} {result : Except (SearchError ε) ModuleGraph}
    (goesOn : GoesOn builder search w [] [] (some result, v)) :
    ∃ enough, ∀ steps ≥ enough, (run builder steps search).run w = (some result, v) := by
  rcases result with e | graph
  · obtain ⟨used, runs⟩ := goesOn
    refine ⟨used, fun steps more => ?_⟩
    obtain ⟨rest, rfl⟩ := Nat.exists_eq_add_of_le more
    exact runs rest
  · obtain ⟨used, runs⟩ := goesOn
    refine ⟨used + 1, fun steps more => ?_⟩
    obtain ⟨rest, rfl⟩ := Nat.exists_eq_add_of_le more
    have count : used + 1 + rest = used + (rest + 1) := by omega
    rw [count]
    exact (runs (rest + 1)).trans run_done

theorem inTurn_goesOn {visit : ModuleGraph → ModuleId → StateM σ (Option (Except (SearchError ε) ModuleGraph))}
    (visits : ∀ graph next w pending, GoesOn builder ⟨graph, active, .enter next importer :: pending⟩ w active
      pending ((visit graph next).run w)) (ids : List ModuleId) (graph : ModuleGraph) (w : σ) (pending : List Visit) :
    GoesOn builder ⟨graph, active, ids.map (.enter · importer) ++ pending⟩ w active pending
      ((inTurn visit graph ids).run w) := by
  induction ids generalizing graph w with
  | nil => exact ⟨0, fun steps => by rw [Nat.zero_add]; rfl⟩
  | cons id rest ih =>
    have first := visits graph id w (rest.map (.enter · importer) ++ pending)
    rcases visited : (visit graph id).run w with ⟨answer, v⟩
    rw [visited] at first
    rw [inTurn, run_bind_of visited]
    rcases answer with _ | e | after
    · trivial
    · exact first
    · obtain ⟨used, runs⟩ := first
      exact (ih after v).behind runs

/-- A visit that is pending does what the call does, with the same work on the state. -/
theorem explore_goesOn (unrepeated : chain.Nodup) (pending : List Visit) :
    GoesOn builder ⟨graph, chain.reverse, .enter id importer :: pending⟩ w chain.reverse pending
      ((explore builder depth chain graph id importer).run w) := by
  induction depth generalizing chain graph id importer w pending with
  | zero => trivial
  | succ depth ih =>
    by_cases within : id ∈ chain
    · rw [explore_cycle within, ← chainTo_reverse unrepeated within]
      refine ⟨1, fun steps => ?_⟩
      rw [Nat.add_comm, run_cycle (List.mem_reverse.mpr within)]
    have fresh : id ∉ chain.reverse := fun member => within (List.mem_reverse.mp member)
    cases stored : graph.contains id with
    | true =>
      rw [explore_skip within stored]
      refine ⟨1, fun steps => ?_⟩
      rw [Nat.add_comm, run_skip fresh stored]
    | false =>
      rcases asks : (builder.build id).run w with ⟨cause | built, v⟩
      · rw [explore_unbuilt within stored asks]
        refine ⟨1, fun steps => ?_⟩
        rw [Nat.add_comm, run_unbuilt fresh stored asks]
      · have next : (chain ++ [id]).Nodup := by
          simpa only [List.concat_eq_append] using unrepeated.concat within
        have visits (graph : ModuleGraph) (other : ModuleId) (w : σ) (pending : List Visit) :
            GoesOn builder ⟨graph, (chain ++ [id]).reverse, .enter other (some id) :: pending⟩ w
              (chain ++ [id]).reverse pending ((explore builder depth (chain ++ [id]) graph other (some id)).run w) :=
          ih next pending
        have calls := inTurn_goesOn visits built.dependencies (graph.insert built) v (.leave :: pending)
        rw [List.reverse_append, List.reverse_singleton, List.singleton_append] at calls
        have enters (steps : Nat) :
            (run builder (1 + steps) ⟨graph, chain.reverse, .enter id importer :: pending⟩).run w =
              (run builder steps ⟨graph.insert built, id :: chain.reverse,
                built.dependencies.map (.enter · (some id)) ++ .leave :: pending⟩).run v := by
          rw [Nat.add_comm]
          exact run_adopt fresh stored asks
        rw [explore_adopt within stored asks]
        exact calls.leave.behind enters

variable {catalogue : Catalogue ε} {keeps : List ModuleId → σ → Prop} {entry : ModuleId}

/-- Work on a graph that has an answer, and keeps what is said of the state behind the stored modules. -/
def Answers (keeps : List ModuleId → σ → Prop) (answer : Option (Except (SearchError ε) ModuleGraph) × σ) : Prop :=
  ∃ result, answer.1 = some result ∧ ∀ graph, result = .ok graph → keeps graph.ids answer.2

theorem Answers.ok (kept : keeps graph.ids w) : Answers (ε := ε) keeps (some (.ok graph), w) :=
  ⟨.ok graph, rfl, fun _ same => by cases same; exact kept⟩

theorem Answers.error {e : SearchError ε} : Answers keeps (some (.error e), w) :=
  ⟨.error e, rfl, fun _ same => by cases same⟩

theorem Answers.finish {answer : Option (Except (SearchError ε) ModuleGraph) × σ} (answers : Answers keeps answer)
    (follows : Follows builder catalogue keeps) (id : ModuleId) : Answers keeps (finish builder id answer) := by
  rcases answer with ⟨answer, v⟩
  obtain ⟨result, rfl, kept⟩ := answers
  cases result with
  | error e => exact .error
  | ok after => exact .ok (follows.tell _ (kept after rfl))

theorem inTurn_answers {visit : ModuleGraph → ModuleId → StateM σ (Option (Except (SearchError ε) ModuleGraph))}
    {ids : List ModuleId}
    (visits : ∀ next ∈ ids, ∀ graph w, keeps graph.ids w → Answers keeps ((visit graph next).run w))
    (graph : ModuleGraph) (w : σ) (here : keeps graph.ids w) : Answers keeps ((inTurn visit graph ids).run w) := by
  induction ids generalizing graph w with
  | nil => exact .ok here
  | cons id rest ih =>
    obtain ⟨result, answers, kept⟩ := visits id (List.mem_cons_self ..) graph w here
    rcases visited : (visit graph id).run w with ⟨answer, v⟩
    rw [visited] at answers kept
    cases answers
    rw [inTurn, run_bind_of visited]
    rcases result with e | after
    · exact .error
    · exact ih (fun next member => visits next (List.mem_cons_of_mem id member)) after v (kept after rfl)

/-- Where only the ids of a finite set are met, no call goes deeper than the set is large, since the
open calls are those of different ids. -/
theorem explore_answers (follows : Follows builder catalogue keeps) (met : Finset ModuleId)
    (closed : ∀ id ∈ met, ∀ next, catalogue.Requires id next → next ∈ met) (unrepeated : chain.Nodup)
    (inside : ∀ other ∈ chain, other ∈ met) (member : id ∈ met) (deep : met.card < depth + chain.length)
    (here : keeps graph.ids w) : Answers keeps ((explore builder depth chain graph id importer).run w) := by
  induction depth generalizing chain graph id importer w with
  | zero =>
    have small : chain.length ≤ met.card := by
      rw [← List.toFinset_card_of_nodup unrepeated]
      exact Finset.card_le_card fun other there => inside other (List.mem_toFinset.mp there)
    omega
  | succ depth ih =>
    by_cases within : id ∈ chain
    · rw [explore_cycle within]
      exact .error
    cases stored : graph.contains id with
    | true =>
      rw [explore_skip within stored]
      exact .ok (follows.tell _ here)
    | false =>
      obtain ⟨answered, kept⟩ := follows.build id here
      rcases asks : (builder.build id).run w with ⟨cause | built, v⟩
      · rw [explore_unbuilt within stored asks]
        exact .error
      · rw [asks] at answered kept
        have answered : catalogue.answer id = .ok built := answered.symm
        have kept : keeps (graph.insert built).ids v := by
          rw [Catalogue.ids_insert answered (ModuleGraph.not_contains_iff.mp stored)]
          exact kept
        have next : (chain ++ [id]).Nodup := by
          simpa only [List.concat_eq_append] using unrepeated.concat within
        have inside' (other : ModuleId) (there : other ∈ chain ++ [id]) : other ∈ met := by
          rcases List.mem_append.mp there with there | there
          · exact inside other there
          · exact List.mem_singleton.mp there ▸ member
        have visits (other : ModuleId) (required : other ∈ built.dependencies) (graph : ModuleGraph) (w : σ)
            (here : keeps graph.ids w) :
            Answers keeps ((explore builder depth (chain ++ [id]) graph other (some id)).run w) :=
          ih next inside' (closed id member other ((Catalogue.requires_iff answered).mpr required))
            (by rw [List.length_append, List.length_singleton]; omega) here
        rw [explore_adopt within stored asks]
        exact (inTurn_answers visits (graph.insert built) v kept).finish follows id

/-- Where finitely many ids are reached, the search and the recursion do the same work on the state and
come to the same result, and do come to one. -/
theorem run_eq_explore (follows : Follows builder catalogue keeps)
    (finite : {other | catalogue.Reaches entry other}.Finite) (here : keeps [] w) :
    ∃ enough, ∀ steps ≥ enough, ∀ depth ≥ enough, ∃ result v,
      (run builder steps (start entry)).run w = (some result, v) ∧
        (explore builder depth [] (.empty entry) entry none).run w = (some result, v) := by
  have answers (depth : Nat) (deep : finite.toFinset.card < depth) :
      Answers keeps ((explore builder depth [] (.empty entry) entry none).run w) :=
    explore_answers follows finite.toFinset
      (fun id member next edge => by
        rw [Set.Finite.mem_toFinset] at member ⊢
        exact member.tail edge)
      List.nodup_nil (by simp) (by rw [Set.Finite.mem_toFinset]; exact .refl) (by simpa using deep) here
  -- The recursion fixes what enough steps come to, at each depth that is enough.
  have agrees (depth : Nat) (deep : finite.toFinset.card < depth) : ∃ result v enough,
      (explore builder depth [] (.empty entry) entry none).run w = (some result, v) ∧
        ∀ steps ≥ enough, (run builder steps (start entry)).run w = (some result, v) := by
    obtain ⟨result, found, _⟩ := answers depth deep
    have goesOn : GoesOn builder (start entry) w [] []
        ((explore builder depth [] (.empty entry) entry none).run w) := explore_goesOn List.nodup_nil []
    rcases explored : (explore builder depth [] (.empty entry) entry none).run w with ⟨answer, v⟩
    rw [explored] at found goesOn
    cases found
    obtain ⟨enough, runs⟩ := goesOn.ends
    exact ⟨result, v, enough, rfl, runs⟩
  obtain ⟨result, v, enough, _, runs⟩ := agrees _ (Nat.lt_succ_self _)
  refine ⟨max enough (finite.toFinset.card + 1), fun steps more depth deep => ⟨result, v, runs steps (by omega), ?_⟩⟩
  obtain ⟨result', v', enough', explored, runs'⟩ := agrees depth (by omega)
  have same := (runs (max enough enough') (by omega)).symm.trans (runs' (max enough enough') (by omega))
  rw [explored, same]

end Bundler.Search
