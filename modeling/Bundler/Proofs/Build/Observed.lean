import Bundler.Build.Compiler
import Bundler.Proofs.Build.Related
import Bundler.Proofs.Host.Reading

/-!
Runs that are watched. What is done in a run is kept in order: which callbacks are called and what they find, which files
are read, and when files may change.
-/

namespace Bundler

/-- What is done in a run. -/
inductive Deed where
  | call (tap : Tap Session) (event : Event) (found : World)
  | read (path : Path)
  | change

/-- A world, and what has been done in it. -/
structure Observed where
  world : World
  deeds : List Deed := []

/-- Work in a world that is watched. -/
abbrev Observe := StateM Observed

namespace Observe

variable {α β : Type}

def lift (work : Session α) : Observe α := fun observed =>
  ((work.run observed.world).1, { observed with world := (work.run observed.world).2 })

/-- Work that is told of. -/
def note (deed : Deed) (work : Session α) : Observe α := fun observed =>
  ((work.run observed.world).1, ⟨(work.run observed.world).2, observed.deeds ++ [deed]⟩)

instance : Host Observe where
  readText path := note (.read path) (Host.readText path)
  isFile path := lift (Host.isFile path)
  isPresent path := lift (Host.isPresent path)
  canonical path := lift (Host.canonical path)
  currentDir := lift Host.currentDir
  createDirs path := note .change (Host.createDirs path)
  createFreshDir path start := note .change (Host.createFreshDir path start)
  writeText path text := note .change (Host.writeText path text)
  rename old new := note .change (Host.rename old new)
  removeTree path := note .change (Host.removeTree path)
  log line := lift (Host.log line)

/-- Whether watched work does what other work does, and all that is told of it is of a kind. -/
def Does (kind : Deed → Prop) (work : Observe α) (plain : Session α) : Prop := ∀ observed, ∃ deeds,
  (∀ deed ∈ deeds, kind deed) ∧
    work.run observed = ((plain.run observed.world).1, ⟨(plain.run observed.world).2, observed.deeds ++ deeds⟩)

section Does

variable {kind : Deed → Prop}

theorem does_pure (a : α) : Does kind (pure a) (pure a) := fun observed =>
  ⟨[], by simp, by rw [List.append_nil]; rfl⟩

theorem Does.bind {work : Observe α} {plain : Session α} {go : α → Observe β} {go' : α → Session β}
    (first : Does kind work plain) (second : ∀ a, Does kind (go a) (go' a)) : Does kind (work >>= go) (plain >>= go') := by
  intro observed
  obtain ⟨deeds, all, ran⟩ := first observed
  obtain ⟨deeds', all', ran'⟩ := second (plain.run observed.world).1 ⟨(plain.run observed.world).2, observed.deeds ++ deeds⟩
  refine ⟨deeds ++ deeds', List.forall_mem_append.mpr ⟨all, all'⟩, ?_⟩
  rw [StateT.run_bind, ran, ← List.append_assoc]
  exact ran'

theorem does_lift (work : Session α) : Does kind (lift work) work := fun observed =>
  ⟨[], by simp, by rw [List.append_nil]; rfl⟩

theorem does_note (kind : Deed → Prop) {deed : Deed} (of : kind deed) (work : Session α) : Does kind (note deed work) work := fun _ =>
  ⟨[deed], by simpa using of, rfl⟩

theorem does_change (work : Session α) : Does (· = .change) (note .change work) work :=
  does_note (· = .change) rfl work

theorem does_related (kind : Deed → Prop) : Host.Related (m := Observe) (n := Session) fun _ => Does kind where
  pure := does_pure
  bind := .bind
  log _ := does_lift _

theorem changes_related : Host.RelatedWrites (m := Observe) (n := Session) fun _ => Does (· = .change) where
  toRelated := does_related _
  isPresent _ := does_lift _
  createDirs _ := does_change _
  createFreshDir _ _ := does_change _
  writeText _ _ := does_change _
  rename _ _ := does_change _
  removeTree _ := does_change _

end Does

end Observe

namespace Deed

def IsRead (deed : Deed) : Prop := ∃ path, deed = .read path

/-- The name of the callback that is called, if one is. -/
def caller? : Deed → Option String
  | call tap _ _ => some tap.name
  | _ => none

end Deed

namespace Tap

/-- What a callback answers. -/
def answer (tap : Tap Session) (event : Event) (world : World) : Except String Unit := ((tap.callback event).run world).1

/-- The callback, whose calls are told of. -/
def observed (tap : Tap Session) : Tap Observe where
  signal := tap.signal
  name := tap.name
  callback event := do
    let found := (← get).world
    Observe.note (.call tap event found) (tap.callback event)

@[simp] theorem observed_signal (tap : Tap Session) : tap.observed.signal = tap.signal := rfl

@[simp] theorem observed_name (tap : Tap Session) : tap.observed.name = tap.name := rfl

end Tap

/-- The compiler, whose runs are watched. -/
def Compiler.observed (compiler : Compiler Session) : Compiler Observe where
  config := compiler.config
  rules := compiler.rules
  hooks := ⟨compiler.hooks.taps.map Tap.observed⟩

@[simp] theorem Compiler.observed_config (compiler : Compiler Session) : compiler.observed.config = compiler.config := rfl

/-- Whether callbacks are called in turn, for one event and in worlds of a kind, up to and including the first that fails,
and what comes of it. -/
inductive Calls (event : Event) (finds : World → Prop) : List (Tap Session) → List Deed → Except HookFailure Unit → Prop
  | done : Calls event finds [] [] (.ok ())
  | other {tap rest deeds result} (apart : tap.signal ≠ event.signal) (onward : Calls event finds rest deeds result) :
      Calls event finds (tap :: rest) deeds result
  | passes {tap rest deeds result found} (on : tap.signal = event.signal) (finding : finds found)
      (passed : tap.answer event found = .ok ()) (onward : Calls event finds rest deeds result) :
      Calls event finds (tap :: rest) (.call tap event found :: deeds) result
  | fails {tap rest found reason} (on : tap.signal = event.signal) (finding : finds found)
      (failed : tap.answer event found = .error reason) :
      Calls event finds (tap :: rest) [.call tap event found] (.error ⟨tap.signal, tap.name, reason⟩)

namespace Calls

variable {event : Event} {finds : World → Prop} {taps : List (Tap Session)} {deeds : List Deed}
  {result : Except HookFailure Unit} (calls : Calls event finds taps deeds result)

include calls

/-- Every call is of a callback that waits for the event. -/
theorem called {tap : Tap Session} {event' : Event} {found : World} (member : .call tap event' found ∈ deeds) :
    event' = event ∧ tap ∈ taps ∧ tap.signal = event.signal ∧ finds found := by
  induction calls with
  | done => cases member
  | other _ _ ih =>
    obtain ⟨told, there, on, finding⟩ := ih member
    exact ⟨told, List.mem_cons_of_mem _ there, on, finding⟩
  | passes on finding _ _ ih =>
    cases member with
    | head => exact ⟨rfl, List.mem_cons_self, on, finding⟩
    | tail _ member =>
      obtain ⟨told, there, on, finding⟩ := ih member
      exact ⟨told, List.mem_cons_of_mem _ there, on, finding⟩
  | fails on finding _ =>
    obtain ⟨rfl, rfl, rfl⟩ := Deed.call.inj (List.mem_singleton.mp member)
    exact ⟨rfl, List.mem_cons_self, on, finding⟩

/-- A failure names the callback that failed and what it waited for. -/
theorem blames {tap : Tap Session} {event' : Event} {found : World} {reason : String}
    (member : .call tap event' found ∈ deeds) (failed : tap.answer event' found = .error reason) :
    result = .error ⟨tap.signal, tap.name, reason⟩ := by
  induction calls with
  | done => cases member
  | other _ _ ih => exact ih member
  | passes _ _ passed _ ih =>
    cases member with
    | head => cases passed.symm.trans failed
    | tail _ member => exact ih member
  | fails _ _ failed' =>
    obtain ⟨rfl, rfl, rfl⟩ := Deed.call.inj (List.mem_singleton.mp member)
    cases failed'.symm.trans failed
    rfl

theorem signal {failure : HookFailure} (failed : result = .error failure) : failure.signal = event.signal := by
  induction calls with
  | done => cases failed
  | other _ _ ih => exact ih failed
  | passes _ _ _ _ ih => exact ih failed
  | fails on _ _ =>
    cases failed
    exact on

theorem ok_iff : result = .ok () ↔
    ∀ tap event' found, .call tap event' found ∈ deeds → tap.answer event' found = .ok () := by
  constructor
  · intro fine tap event' found member
    cases answers : tap.answer event' found with
    | ok _ => rfl
    | error reason => cases fine.symm.trans (calls.blames member answers)
  · intro pass
    induction calls with
    | done => rfl
    | other _ _ ih => exact ih pass
    | passes _ _ _ _ ih => exact ih fun tap event' found member => pass tap event' found (List.mem_cons_of_mem _ member)
    | fails _ _ failed => cases failed.symm.trans (pass _ _ _ (List.mem_singleton_self _))

end Calls

/-- A single callback fails if it does so whatever it finds. -/
theorem Calls.of_failing {event : Event} {finds : World → Prop} {tap : Tap Session} {deeds : List Deed}
    {result : Except HookFailure Unit} {reason : String} (calls : Calls event finds [tap] deeds result)
    (on : tap.signal = event.signal) (fails : ∀ found, tap.answer event found = .error reason) :
    result = .error ⟨tap.signal, tap.name, reason⟩ := by
  cases calls with
  | other apart _ => exact absurd on apart
  | passes _ _ passed _ => cases passed.symm.trans (fails _)
  | fails _ _ failed =>
    cases failed.symm.trans (fails _)
    rfl

end Bundler
