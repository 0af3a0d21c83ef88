import Bundler.Proofs.Search.Outcome

/-!
Whether a search comes to an end. It does if its chain of active modules stays short. Its end is decided
along the modules that are not sound, each of which hands on to its first such dependency: a search that
ends has only finitely many of them before it.
-/

namespace Bundler.Search

open Relation

variable {ε : Type} {catalogue : Catalogue ε} {entry id importer : ModuleId} {active outer : List ModuleId}
  {pending later : List Visit}

section Bounded

variable {bound : Nat} {graph : ModuleGraph} {importer : Option ModuleId}

/-- Where no chain of active modules is longer than `bound`, a visit ends the search or is gone after some
steps. The induction is on how many modules may still become active. -/
theorem visit_ends (room : Nat)
    (bounded : ∀ search, Steps catalogue (start entry) search → search.active.length ≤ bound)
    (fits : bound < active.length + room)
    (here : Steps catalogue (start entry) ⟨graph, active, .enter id importer :: pending⟩) :
    (∃ result, Yields catalogue (start entry) result) ∨
      ∃ after, Steps catalogue (start entry) ⟨after, active, pending⟩ := by
  induction room generalizing graph active pending id importer with
  | zero =>
    have short : active.length ≤ bound := bounded _ here
    omega
  | succ room ih =>
    rcases step_or_ends catalogue ⟨graph, active, .enter id importer :: pending⟩ with ⟨next, step⟩ | ⟨result, ends⟩
    · cases step with
      | skip fresh stored => exact .inr ⟨graph, here.tail (.skip fresh stored)⟩
      | adopt fresh stored answered =>
        have fits' : bound < (id :: active).length + room := by
          rw [List.length_cons]
          omega
        have all := steps_all (fun next _ _ _ arrived => ih fits' arrived) (here.tail (.adopt fresh stored answered))
        exact all.imp_right fun ⟨after, left⟩ => ⟨after, left.tail .leave⟩
    · exact .inl ⟨result, _, here, ends⟩

theorem yields_of_bounded (bounded : ∀ search, Steps catalogue (start entry) search → search.active.length ≤ bound) :
    ∃ result, Yields catalogue (start entry) result := by
  have start : (∃ result, Yields catalogue (start entry) result) ∨
      ∃ after, Steps catalogue (start entry) ⟨after, [], []⟩ :=
    visit_ends (bound + 1) bounded (by simp) .refl
  rcases start with ends | ⟨after, path⟩
  · exact ends
  · exact ⟨.ok after, _, path, .done⟩

end Bounded

/-- A module hands on to the first of its dependencies that is not sound. -/
def Onward (catalogue : Catalogue ε) (id next : ModuleId) : Prop :=
  ∃ built handled waiting, catalogue.answer id = .ok built ∧ built.dependencies = handled ++ next :: waiting ∧
    (∀ other ∈ handled, catalogue.Sound other) ∧ ¬ catalogue.Sound next

theorem Onward.requires {next : ModuleId} (onward : Onward catalogue id next) : catalogue.Requires id next := by
  obtain ⟨built, handled, waiting, answered, split, _⟩ := onward
  exact ⟨built, answered, by simp [split]⟩

/-- What requires a module that is not sound behind sound ones hands on to it, and is not sound either. -/
theorem onward_of_split {next : ModuleId} {built : Module} {handled waiting : List ModuleId}
    (answered : catalogue.answer id = .ok built) (split : built.dependencies = handled ++ next :: waiting)
    (sound : ∀ other ∈ handled, catalogue.Sound other) (unsound : ¬ catalogue.Sound next) :
    Onward catalogue id next ∧ ¬ catalogue.Sound id :=
  ⟨⟨built, handled, waiting, answered, split, sound, unsound⟩,
    fun whole => unsound (whole.requires (Catalogue.requires_next answered split))⟩

/-- The first id of a list that is not sound is the same however the list is split there. -/
theorem first_unique {left right : ModuleId} {handled waiting handled' waiting' : List ModuleId}
    (same : handled ++ left :: waiting = handled' ++ right :: waiting')
    (sound : ∀ other ∈ handled, catalogue.Sound other) (sound' : ∀ other ∈ handled', catalogue.Sound other)
    (unsound : ¬ catalogue.Sound left) (unsound' : ¬ catalogue.Sound right) : left = right := by
  induction handled generalizing handled' with
  | nil =>
    cases handled' with
    | nil => exact (List.cons.inj same).1
    | cons first rest =>
      obtain ⟨rfl, _⟩ := List.cons.inj same
      exact absurd (sound' left List.mem_cons_self) unsound
  | cons first rest ih =>
    cases handled' with
    | nil =>
      obtain ⟨rfl, _⟩ := List.cons.inj same
      exact absurd (sound first List.mem_cons_self) unsound'
    | cons first' rest' =>
      exact ih (List.cons.inj same).2 (fun other member => sound other (List.mem_cons_of_mem first member))
        fun other member => sound' other (List.mem_cons_of_mem first' member)

theorem Onward.unique {left right : ModuleId} (one : Onward catalogue id left) (other : Onward catalogue id right) :
    left = right := by
  obtain ⟨built, handled, waiting, answered, split, sound, unsound⟩ := one
  obtain ⟨built', handled', waiting', answered', split', sound', unsound'⟩ := other
  cases answered.symm.trans answered'
  exact first_unique (split.symm.trans split') sound sound' unsound unsound'

namespace Within

theorem entry_mem (within : Within catalogue entry id outer later) : entry ∈ id :: outer := by
  induction within with
  | entry => exact List.mem_cons_self ..
  | dependency _ _ _ _ ih => exact List.mem_cons_of_mem _ ih

/-- The active modules hand on, one to the next, down to a module that is not sound. -/
theorem onward (within : Within catalogue entry id outer later) (unsound : ¬ catalogue.Sound id) :
    ∀ other ∈ outer, TransGen (Onward catalogue) other id := by
  induction within with
  | entry => simp
  | dependency _ answered split sound ih =>
    obtain ⟨next, above⟩ := onward_of_split answered split sound unsound
    intro other member
    rcases List.mem_cons.mp member with rfl | member
    · exact .single next
    · exact (ih above other member).tail next

theorem from_entry (within : Within catalogue entry id outer later) (unsound : ¬ catalogue.Sound id) :
    ∀ other ∈ id :: outer, ReflTransGen (Onward catalogue) entry other := by
  induction within with
  | entry =>
    intro other member
    rw [List.mem_singleton.mp member]
  | dependency _ answered split sound ih =>
    obtain ⟨next, above⟩ := onward_of_split answered split sound unsound
    intro other member
    rcases List.mem_cons.mp member with rfl | member
    · exact (ih above _ (List.mem_cons_self ..)).tail next
    · exact ih above other member

/-- Nothing else is handed on to on the way down to a module that is not sound. -/
theorem closed (within : Within catalogue entry id outer later) (unsound : ¬ catalogue.Sound id) :
    ∀ other ∈ outer, ∀ next, Onward catalogue other next → next ∈ id :: outer := by
  induction within with
  | entry => simp
  | dependency _ answered split sound ih =>
    obtain ⟨here, above⟩ := onward_of_split answered split sound unsound
    intro other member next onward
    rcases List.mem_cons.mp member with rfl | member
    · exact onward.unique here ▸ List.mem_cons_self ..
    · exact List.mem_cons_of_mem _ (ih above other member next onward)

/-- Of two active modules, the search was at work on one when the other was active already. -/
theorem order (within : Within catalogue entry id outer later) {one other : ModuleId} (member : one ∈ id :: outer)
    (member' : other ∈ id :: outer) (apart : one ≠ other) :
    (∃ outer later, Within catalogue entry other outer later ∧ one ∈ outer) ∨
      ∃ outer later, Within catalogue entry one outer later ∧ other ∈ outer := by
  induction within with
  | entry =>
    rw [List.mem_singleton] at member member'
    exact absurd (member.trans member'.symm) apart
  | dependency before answered split sound ih =>
    have here := before.dependency answered split sound
    rcases List.mem_cons.mp member with rfl | above
    · exact .inr ⟨_, _, here, (List.mem_cons.mp member').resolve_left apart.symm⟩
    · rcases List.mem_cons.mp member' with rfl | above'
      · exact .inl ⟨_, _, here, above⟩
      · exact ih above above'

end Within

/-- Where a search fails, what is handed on to from the entry stays among its active modules and the one that
it failed at. -/
theorem Held.failed {final : Search} {e : SearchError ε} (held : Held catalogue entry final)
    (ends : Ends catalogue final (.error e)) :
    ∃ met : List ModuleId, entry ∈ met ∧ ∀ other ∈ met, ∀ next, Onward catalogue other next → next ∈ met := by
  have shape := held.shape
  cases ends with
  | @cycle graph active pending id importer member =>
    rcases shape.enter with ⟨rfl, _⟩ | ⟨top, outer, _, _, _, _, rfl, _, _, within, answered, split, sound⟩
    · cases member
    · have edge := Catalogue.requires_next answered split
      have unsound : ¬ catalogue.Sound id := fun sound => sound.acyclic (within.around edge member)
      obtain ⟨here, above⟩ := onward_of_split answered split sound unsound
      refine ⟨top :: outer, within.entry_mem, fun other there next onward => ?_⟩
      rcases List.mem_cons.mp there with rfl | there
      · exact onward.unique here ▸ member
      · exact within.closed above other there next onward
  | @unbuilt graph active pending id importer cause fresh stored unanswered =>
    have unsound : ¬ catalogue.Sound id := fun sound => by
      obtain ⟨built, answered⟩ := sound.has_module
      cases answered.symm.trans unanswered
    have last (next : ModuleId) : ¬ Onward catalogue id next := by
      rintro ⟨built, _, _, answered, _⟩
      cases answered.symm.trans unanswered
    rcases shape.enter with ⟨rfl, _, rfl, _⟩ | ⟨top, outer, _, _, _, _, rfl, _, _, within, answered, split, sound⟩
    · refine ⟨[id], List.mem_singleton_self id, fun other there next onward => ?_⟩
      rw [List.mem_singleton.mp there] at onward
      exact absurd onward (last next)
    · have below := within.dependency answered split sound
      refine ⟨id :: top :: outer, below.entry_mem, fun other there next onward => ?_⟩
      rcases List.mem_cons.mp there with rfl | above
      · exact absurd onward (last next)
      · exact below.closed unsound other above next onward

/-- A search that ends has finitely many modules handed on to before it. -/
theorem Yields.onward_finite {result : Except (SearchError ε) ModuleGraph}
    (yields : Yields catalogue (start entry) result) : {other | ReflTransGen (Onward catalogue) entry other}.Finite := by
  obtain ⟨final, path, held, ends⟩ := yields.reached
  cases result with
  | ok graph =>
    have sound : catalogue.Sound entry := yields_ok_iff.mp ⟨graph, yields⟩
    have weaker : Onward catalogue ≤ catalogue.Requires := fun _ _ => Onward.requires
    exact sound.finite.subset fun other onward => ReflTransGen.mono weaker entry other onward
  | error e =>
    obtain ⟨met, first, closed⟩ := held.failed ends
    refine (List.finite_toSet met).subset fun other onward => ?_
    induction onward with
    | refl => exact first
    | tail _ last ih => exact closed _ ih _ last

/-- A way to lift ids, those for which `high` holds: the module of a lifted id is that of the id, with lifted
dependencies, if it has one. -/
structure Lifts (catalogue : Catalogue ε) (high : ModuleId → Prop) (lift : ModuleId → ModuleId) : Prop where
  answer : ∀ {id}, high id → (catalogue.answer (lift id)).toOption.map Module.dependencies =
    ((catalogue.answer id).toOption.map Module.dependencies).map (List.map lift)
  requires : ∀ {id next}, high id → catalogue.Requires id next → high next
  stays : ∀ {id}, high id → high (lift id)

namespace Lifts

variable {high : ModuleId → Prop} {lift : ModuleId → ModuleId} {next : ModuleId} {built : Module}

theorem answer_ok (lifts : Lifts catalogue high lift) (above : high id) (answered : catalogue.answer id = .ok built) :
    ∃ lifted, catalogue.answer (lift id) = .ok lifted ∧ lifted.dependencies = built.dependencies.map lift := by
  have same := lifts.answer above
  rw [answered] at same
  cases found : catalogue.answer (lift id) with
  | error e =>
    rw [found] at same
    cases same
  | ok lifted =>
    rw [found] at same
    exact ⟨lifted, rfl, Option.some.inj same⟩

theorem answer_back (lifts : Lifts catalogue high lift) (above : high id)
    (answered : catalogue.answer (lift id) = .ok built) :
    ∃ before, catalogue.answer id = .ok before ∧ built.dependencies = before.dependencies.map lift := by
  have same := lifts.answer above
  rw [answered] at same
  cases found : catalogue.answer id with
  | error e =>
    rw [found] at same
    cases same
  | ok before =>
    rw [found] at same
    exact ⟨before, rfl, Option.some.inj same⟩

theorem requires_lift (lifts : Lifts catalogue high lift) (above : high id) (edge : catalogue.Requires id next) :
    catalogue.Requires (lift id) (lift next) := by
  obtain ⟨built, answered, member⟩ := edge
  obtain ⟨lifted, answered', same⟩ := lifts.answer_ok above answered
  exact ⟨lifted, answered', same ▸ List.mem_map_of_mem member⟩

theorem sound_iff (lifts : Lifts catalogue high lift) (above : high id) :
    catalogue.Sound (lift id) ↔ catalogue.Sound id := by
  constructor
  · intro sound
    generalize same : lift id = lifted at sound
    induction sound generalizing id with
    | intro answered _ ih =>
      subst same
      obtain ⟨before, answered', same⟩ := lifts.answer_back above answered
      refine .intro answered' fun next member => ?_
      have edge := (Catalogue.requires_iff answered').mpr member
      exact ih (lift next) (same ▸ List.mem_map_of_mem member) (lifts.requires above edge) rfl
  · intro sound
    induction sound with
    | intro answered _ ih =>
      obtain ⟨lifted, answered', same⟩ := lifts.answer_ok above answered
      refine .intro answered' fun next member => ?_
      obtain ⟨other, required, rfl⟩ := List.mem_map.mp (same ▸ member)
      exact ih other required (lifts.requires above ((Catalogue.requires_iff answered).mpr required))

theorem onward_lift (lifts : Lifts catalogue high lift) (above : high id) (onward : Onward catalogue id next) :
    Onward catalogue (lift id) (lift next) := by
  have edge := onward.requires
  obtain ⟨built, handled, waiting, answered, split, sound, unsound⟩ := onward
  obtain ⟨lifted, answered', same⟩ := lifts.answer_ok above answered
  refine ⟨lifted, handled.map lift, waiting.map lift, answered', by rw [same, split]; simp, ?_, ?_⟩
  · intro other member
    obtain ⟨before, there, rfl⟩ := List.mem_map.mp member
    have edge' := (Catalogue.requires_iff answered).mpr (split ▸ List.mem_append_left _ there)
    exact (lifts.sound_iff (lifts.requires above edge')).mpr (sound before there)
  · rwa [lifts.sound_iff (lifts.requires above edge)]

/-- A path that can be lifted goes on from its end, if that is its start lifted. -/
theorem path_lift (lifts : Lifts catalogue high lift) {step : ModuleId → ModuleId → Prop}
    (edges : ∀ {one other}, step one other → catalogue.Requires one other)
    (steps : ∀ {one other}, high one → step one other → step (lift one) (lift other)) (above : high id)
    (path : TransGen step id next) : TransGen step (lift id) (lift next) ∧ high next := by
  induction path with
  | single edge => exact ⟨.single (steps above edge), lifts.requires above (edges edge)⟩
  | tail _ edge ih => exact ⟨ih.1.tail (steps ih.2 edge), lifts.requires ih.2 (edges edge)⟩

/-- Lifted over and over, a path leads to infinitely many ids. -/
theorem orbit_infinite (lifts : Lifts catalogue high lift) {step : ModuleId → ModuleId → Prop}
    (edges : ∀ {one other}, step one other → catalogue.Requires one other)
    (steps : ∀ {one other}, high one → step one other → step (lift one) (lift other)) (above : high id)
    (distinct : Function.Injective fun times => lift^[times] id) (path : TransGen step id (lift id)) :
    {other | ReflTransGen step id other}.Infinite := by
  have onward (times : Nat) : high (lift^[times] id) ∧ TransGen step (lift^[times] id) (lift^[times + 1] id) := by
    induction times with
    | zero => exact ⟨above, path⟩
    | succ times ih =>
      rw [Function.iterate_succ_apply' lift (times + 1), Function.iterate_succ_apply' lift times] at *
      exact ⟨lifts.stays ih.1, (lifts.path_lift edges steps ih.1 ih.2).1⟩
  have reached (times : Nat) : ReflTransGen step id (lift^[times] id) := by
    induction times with
    | zero => exact .refl
    | succ times ih => exact ih.trans (onward times).2.to_reflTransGen
  exact Set.infinite_of_injective_forall_mem distinct reached

/-- A search that is at work on a lifted id while the id is active never ends. -/
theorem endless (lifts : Lifts catalogue high lift) (above : high id)
    (distinct : Function.Injective fun times => lift^[times] id)
    (within : Within catalogue entry (lift id) outer later) (member : id ∈ outer) :
    ¬ ∃ result, Yields catalogue (start entry) result := by
  rintro ⟨result, yields⟩
  have back := within.requires id member
  have unsound : ¬ catalogue.Sound (lift id) := by
    rw [lifts.sound_iff above]
    exact fun sound => lifts.orbit_infinite (fun edge => edge) lifts.requires_lift above distinct back sound.finite
  have path := within.onward unsound id member
  have arrived := within.from_entry unsound id (List.mem_cons_of_mem _ member)
  refine lifts.orbit_infinite Onward.requires lifts.onward_lift above distinct path ?_
  exact yields.onward_finite.subset fun other onward => arrived.trans onward

end Lifts

end Bundler.Search
