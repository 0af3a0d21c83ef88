import Bundler.Proofs.Build.Again
import Bundler.Proofs.Build.Observed
import Bundler.Proofs.Build.Placed
import Bundler.Proofs.Build.Restored

/-!
The course of a run: which callbacks are called when, what is read and written between them, and what is in the files at
each of its ends.
-/

namespace Bundler

variable {world world' : World}

namespace Session

variable {α : Type}

/-- Whether two works come to the same in worlds that differ in their logs alone, and leave such worlds. -/
def Alike (work work' : Session α) : Prop := ∀ world world', world.Same world' →
  (work.run world).1 = (work'.run world').1 ∧ (work.run world).2.Same (work'.run world').2

theorem alike_related : Host.RelatedWrites (m := Session) (n := Session) fun _ => Alike where
  pure _ _ _ same := ⟨rfl, same⟩
  bind := by
    intro _ _ work work' go go' first second world world' same
    obtain ⟨answers, left⟩ := first world world' same
    rcases ran : work.run world with ⟨a, middle⟩
    rcases ran' : work'.run world' with ⟨a', middle'⟩
    rw [ran, ran'] at answers left
    obtain rfl : a = a' := answers
    rw [StateT.run_bind, StateT.run_bind, ran, ran']
    exact second a middle middle' left
  log _ _ _ same := ⟨rfl, same⟩
  isPresent _ := by
    rintro ⟨tree, current, log⟩ ⟨_, _, log'⟩ ⟨rfl, rfl⟩
    exact ⟨rfl, rfl, rfl⟩
  createDirs path := by
    rintro ⟨tree, current, log⟩ ⟨_, _, log'⟩ ⟨rfl, rfl⟩
    rw [run_createDirs, run_createDirs]
    exact ⟨rfl, rfl, rfl⟩
  createFreshDir path start := by
    rintro ⟨tree, current, log⟩ ⟨_, _, log'⟩ ⟨rfl, rfl⟩
    rw [run_createFreshDir_base, run_createFreshDir_base]
    dsimp only
    cases base? current path with
    | none => exact ⟨rfl, rfl, rfl⟩
    | some base =>
      dsimp only
      rcases tree.makeFreshDir current base start with ⟨path, e | tree⟩
      · exact ⟨rfl, rfl, rfl⟩
      · exact ⟨rfl, rfl, rfl⟩
  writeText path text := by
    rintro ⟨tree, current, log⟩ ⟨_, _, log'⟩ ⟨rfl, rfl⟩
    rw [run_writeText, run_writeText]
    dsimp only
    cases tree.writeText current path text with
    | error e => exact ⟨rfl, rfl, rfl⟩
    | ok tree => exact ⟨rfl, rfl, rfl⟩
  rename old new := by
    rintro ⟨tree, current, log⟩ ⟨_, _, log'⟩ ⟨rfl, rfl⟩
    rw [run_rename, run_rename]
    dsimp only
    cases tree.route current old new with
    | error e => exact ⟨rfl, rfl, rfl⟩
    | ok places =>
      dsimp only
      unfold World.move
      split
      · exact ⟨rfl, rfl, rfl⟩
      · exact ⟨rfl, rfl, rfl⟩
  removeTree path := by
    rintro ⟨tree, current, log⟩ ⟨_, _, log'⟩ ⟨rfl, rfl⟩
    refine ⟨rfl, ?_⟩
    simp only [Host.removeTree, StateT.run_modify]
    cases tree.locate current false path with
    | error e => exact ⟨rfl, rfl⟩
    | ok place => exact ⟨rfl, rfl⟩

end Session

theorem World.Sound.of_same {before : World} (sound : world.Sound) (same : before.Same world) : before.Sound := by
  obtain ⟨tree, current⟩ := same
  exact ⟨tree ▸ sound.grounded, tree ▸ current ▸ sound.standing, current ▸ sound.proper⟩

namespace Output

variable {output : Output} {bundle directory filename : String} {graph : ModuleGraph} {root file : Path} {after : World}

theorem Wrote.of_same (wrote : output.Wrote bundle world) (same : world'.Same world) : output.Wrote bundle world' := by
  obtain ⟨tree, current⟩ := same
  unfold Wrote World.files
  rw [tree, current]
  exact wrote

open Session in
/-- A bundle that is emitted is in the file of the output. -/
theorem wrote_of_emit {directory : Path} (sound : world.Sound)
    (done : ((Output.of directory filename).emit graph root : Session _).Gives world file after) :
    file = (Output.of directory filename).file ∧ (Output.of directory filename).Wrote (Bundle.render graph) after := by
  cases checked : (Output.of directory filename).check root with
  | error e =>
    rw [emit_refused_eq checked] at done
    cases done
  | ok _ =>
    obtain ⟨lead, last, named⟩ := named_of checked
    unfold emit at done
    rw [checked] at done
    split at done
    · cases done
    · cases done
    · have done := gives_log.mp (show Session.Gives (Host.log _ >>= _) world file after from done)
      obtain ⟨_, written, writes, done⟩ := gives_bind done not_gives_error
      cases gives_log.mp done
      have wrote := wrote_of_write named (check_eq_ok checked).1 (sound.of_same (world.told_same _)) writes
      exact ⟨rfl, wrote.of_same (written.told_same _)⟩

end Output

namespace Hooks

variable {event : Event} {finds : World → Prop} {taps : List (Tap Session)}

/-- Callbacks that leave the files as they are all find what the first one does. -/
theorem callAll_observed (quiet : ∀ tap ∈ taps, ∀ event world, ((tap.callback event).run world).2.Same world)
    (closed : ∀ {world world'}, finds world → world'.Same world → finds world') (observed : Observed)
    (finding : finds observed.world) : ∃ deeds,
      Calls event finds taps deeds ((callAll event (taps.filter (·.signal = event.signal))).run observed.world).1 ∧
      (callAll event ((taps.map Tap.observed).filter (·.signal = event.signal))).run observed =
        (((callAll event (taps.filter (·.signal = event.signal))).run observed.world).1,
          ⟨((callAll event (taps.filter (·.signal = event.signal))).run observed.world).2, observed.deeds ++ deeds⟩) := by
  induction taps generalizing observed with
  | nil => exact ⟨[], .done, by rw [List.append_nil]; rfl⟩
  | cons tap rest ih =>
    have quietRest := fun other member => quiet other (List.mem_cons_of_mem tap member)
    by_cases on : tap.signal = event.signal
    · simp only [List.map_cons, List.filter_cons, Tap.observed_signal, on, decide_true, if_true]
      rw [callAll, callAll, Tap.observed_name]
      obtain ⟨world, before⟩ := observed
      have told : ∀ line, (Host.log line : Observe Unit).run ⟨world, before⟩ = ((), ⟨world.told line, before⟩) := fun _ => rfl
      have asked (found : World) : (tap.observed.callback event).run ⟨found, before⟩ =
          (tap.answer event found, ⟨((tap.callback event).run found).2, before ++ [.call tap event found]⟩) := rfl
      rw [run_bind_of (told _), run_bind_of (Session.run_log _), run_bind_of (asked _)]
      have finding := closed finding (world.told_same ⟨.trace, .hooks, s!"Calling {event.signal.name} hook '{tap.name}'"⟩)
      generalize world.told ⟨.trace, .hooks, s!"Calling {event.signal.name} hook '{tap.name}'"⟩ = found at finding ⊢
      have kept := quiet tap (by simp) event found
      rcases answers : (tap.callback event).run found with ⟨reason | _, called⟩
      · have failed : tap.answer event found = .error reason := congrArg Prod.fst answers
        rw [run_bind_of answers, failed]
        exact ⟨_, on ▸ .fails on finding failed, rfl⟩
      · have passed : tap.answer event found = .ok () := congrArg Prod.fst answers
        rw [answers] at kept
        obtain ⟨deeds, calls, ran⟩ := ih quietRest ⟨called, before ++ [.call tap event found]⟩ (closed finding kept)
        rw [run_bind_of answers, passed]
        refine ⟨_, .passes on finding passed calls, ?_⟩
        rw [show before ++ .call tap event found :: deeds = before ++ [.call tap event found] ++ deeds by simp]
        exact ran
    · simp only [List.map_cons, List.filter_cons, Tap.observed_signal, on, decide_false, Bool.false_eq_true, if_false]
      obtain ⟨deeds, calls, ran⟩ := ih quietRest observed finding
      exact ⟨deeds, .other on calls, ran⟩

end Hooks

namespace Compiler

open Session

/-- What the graph of a run comes to. -/
def summary (compiler : Compiler Session) (graph : ModuleGraph) : BuildSummary :=
  ⟨graph.entry, graph.size, compiler.output.file⟩

/-- Writing the bundle of a graph. -/
def emit (compiler : Compiler Session) (graph : ModuleGraph) : Session (Except EmitError Path) :=
  compiler.output.emit graph compiler.config.root

/-- Whether the callbacks before a build have all been called in the world as it was, and files have been read. -/
structure Begun (compiler : Compiler Session) (world : World) (befores reads : List Deed) : Prop where
  calls : Calls compiler.beginning (·.Same world) compiler.hooks.taps befores (.ok ())
  reading : ∀ deed ∈ reads, deed.IsRead

/-- Whether a graph has then been found, and files may have changed. -/
structure Built (compiler : Compiler Session) (world : World) (graph : ModuleGraph) (befores reads changes : List Deed) : Prop
    extends compiler.Begun world befores reads where
  found : (compiler.graph.run world).1 = .ok graph
  changing : ∀ deed ∈ changes, deed = .change

/-- Whether the bundle has then been written, and the callbacks behind the build have been called in a world that holds it. -/
structure Told (compiler : Compiler Session) (world : World) (graph : ModuleGraph)
    (befores reads changes afters : List Deed) (answer : Except HookFailure Unit) : Prop
    extends compiler.Built world graph befores reads changes where
  emitted : ((compiler.emit graph).run world).1 = .ok compiler.output.file
  answers : Calls (ending (compiler.summary graph)) (compiler.output.Wrote (Bundle.render graph)) compiler.hooks.taps
    afters answer

/-- The course of a run from a world: what is done, what comes of it, and which world is left. There is one case for each
end of a run. -/
inductive Course (compiler : Compiler Session) (world : World) : List Deed → Except RunError BuildSummary → World → Prop
  /-- A callback before the build fails. -/
  | stopped {befores e left} (calls : Calls compiler.beginning (·.Same world) compiler.hooks.taps befores (.error e))
      (same : left.Same world) : Course compiler world befores (.error (.hook e)) left
  /-- There is no graph. -/
  | graphless {befores reads e left} (begun : compiler.Begun world befores reads)
      (failed : (compiler.graph.run world).1 = .error e) (same : left.Same world) :
      Course compiler world (befores ++ reads) (.error (.graph e)) left
  /-- The bundle is not written. -/
  | unwritten {befores reads changes graph e left} (built : compiler.Built world graph befores reads changes)
      (failed : ((compiler.emit graph).run world).1 = .error e) (same : left.Same ((compiler.emit graph).run world).2) :
      Course compiler world (befores ++ reads ++ changes) (.error (.emit e)) left
  /-- A callback behind the build fails. -/
  | noticed {befores reads changes afters graph e left}
      (told : compiler.Told world graph befores reads changes afters (.error e))
      (same : left.Same ((compiler.emit graph).run world).2) :
      Course compiler world (befores ++ reads ++ changes ++ afters) (.error (.hook e)) left
  | finished {befores reads changes afters graph left}
      (told : compiler.Told world graph befores reads changes afters (.ok ()))
      (same : left.Same ((compiler.emit graph).run world).2) :
      Course compiler world (befores ++ reads ++ changes ++ afters) (.ok (compiler.summary graph)) left

variable {compiler : Compiler Session} {graph : ModuleGraph} {befores reads deeds : List Deed} {found left : World}
  {result : Except RunError BuildSummary}

section Observed

variable (quiet : compiler.hooks.Quiet)

include quiet

theorem call_observed (finds : World → Prop) (closed : ∀ {world world'}, finds world → world'.Same world → finds world')
    (event : Event) (done : List Deed) (finding : finds found) : ∃ deeds answer called,
      Calls event finds compiler.hooks.taps deeds answer ∧ called.Same found ∧
      (compiler.hooks.call event).run found = (answer, called) ∧
      (compiler.observed.hooks.call event).run ⟨found, done⟩ = (answer, ⟨called, done ++ deeds⟩) := by
  obtain ⟨deeds, calls, ran⟩ := Hooks.callAll_observed quiet closed ⟨found, done⟩ finding
  exact ⟨deeds, _, _, calls, quiet.call_same, rfl, ran⟩

theorem finish_course (sound : world.Sound) (begun : compiler.Begun world befores reads)
    (finds : (compiler.graph.run world).1 = .ok graph) (same : found.Same world) (done : List Deed) :
    ∃ deeds result left, (compiler.finish graph).run found = (result, left) ∧
      (compiler.observed.finish graph).run ⟨found, done⟩ = (result, ⟨left, done ++ deeds⟩) ∧
      compiler.Course world (befores ++ reads ++ deeds) result left := by
  obtain ⟨changes, changing, emits⟩ := Output.emit_related Observe.changes_related compiler.output graph
    compiler.config.root ⟨found, done⟩
  obtain ⟨answers, kept⟩ := Output.emit_related alike_related compiler.output graph compiler.config.root found world same
  have built : compiler.Built world graph befores reads changes := ⟨begun, finds, changing⟩
  have emits : (compiler.observed.output.emit graph compiler.config.root : Observe _).run ⟨found, done⟩ = _ := emits
  change _ = ((compiler.emit graph).run world).1 at answers
  change World.Same _ ((compiler.emit graph).run world).2 at kept
  unfold finish
  rcases ran : (compiler.output.emit graph compiler.config.root : Session _).run found with ⟨e | file, written⟩
  · rw [ran] at answers kept emits
    rw [observed_config, run_bind_of ran, run_bind_of emits]
    exact ⟨changes, _, _, rfl, rfl, .unwritten built answers.symm kept⟩
  · obtain ⟨same', wrote⟩ := Output.wrote_of_emit (sound.of_same same) ran
    obtain rfl : file = compiler.output.file := same'
    rw [ran] at answers kept emits
    obtain ⟨afters, answer, called, calls, kept', calling, watching⟩ := call_observed quiet
      (compiler.output.Wrote (Bundle.render graph)) .of_same (.afterEmit graph.entry graph.size compiler.output.file)
      (done ++ changes) wrote
    have left := kept'.trans kept
    rw [observed_config, run_bind_of ran, run_bind_of emits]
    dsimp only
    rw [run_bind_of calling, run_bind_of watching, List.append_assoc done]
    refine ⟨changes ++ afters, ?_⟩
    rw [← List.append_assoc (befores ++ reads)]
    cases answer with
    | error e => exact ⟨_, _, rfl, rfl, .noticed ⟨built, answers.symm, calls⟩ left⟩
    | ok _ => exact ⟨_, _, rfl, rfl, .finished ⟨built, answers.symm, calls⟩ ((called.told_same _).trans left)⟩

theorem run_observed (sound : world.Sound) :
    ∃ deeds result left, compiler.run.run world = (result, left) ∧
      compiler.observed.run.run ⟨world, []⟩ = (result, ⟨left, deeds⟩) ∧ compiler.Course world deeds result left := by
  let line : LogLine := ⟨.info, .compiler, s!"Building {compiler.config.entryPath}"⟩
  have told : (Host.log line : Observe Unit).run ⟨world, []⟩ = ((), ⟨world.told line, []⟩) := rfl
  obtain ⟨befores, answer, called, calls, same, calling, watching⟩ := call_observed quiet (·.Same world)
    (fun same same' => same'.trans same) (.beforeBuild compiler.config.root compiler.config.entryPath) []
    (world.told_same line)
  have same := same.trans (world.told_same line)
  rw [List.nil_append] at watching
  unfold run
  rw [observed_config, run_bind_of (run_log line), run_bind_of told, run_bind_of calling, run_bind_of watching]
  cases answer with
  | error e => exact ⟨befores, _, _, rfl, rfl, .stopped calls same⟩
  | ok _ =>
    obtain ⟨reads, reading, searches⟩ := Project.graphWithin_related (Observe.does_related Deed.IsRead)
      (fun path => Observe.does_note Deed.IsRead ⟨path, rfl⟩ _) compiler.project Project.maxSteps compiler.config.entryPath
      ⟨called, befores⟩
    have searches : compiler.observed.graph.run ⟨called, befores⟩ =
      ((compiler.graph.run called).1, ⟨(compiler.graph.run called).2, befores ++ reads⟩) := searches
    have begun : compiler.Begun world befores reads := ⟨calls, reading⟩
    have leaves := (compiler.graph_leaves called).trans same
    have finds := (graph_same same : _ = (compiler.graph.run world).1).symm
    rcases ran : compiler.graph.run called with ⟨e | graph, searched⟩
    · rw [ran] at leaves finds searches
      dsimp only
      rw [run_bind_of ran, run_bind_of searches]
      exact ⟨befores ++ reads, _, _, rfl, rfl, .graphless begun finds leaves⟩
    · rw [ran] at leaves finds searches
      obtain ⟨deeds, result, left, plain, watched, course⟩ :=
        finish_course quiet sound begun finds leaves (befores ++ reads)
      dsimp only
      rw [run_bind_of ran, run_bind_of searches]
      exact ⟨befores ++ reads ++ deeds, result, left, plain, watched, course⟩

end Observed

section Exits

variable {tap : Tap Session} {event : Event} {found : World} {changes afters : List Deed}

theorem Begun.mem_call (begun : compiler.Begun world befores reads) (member : .call tap event found ∈ befores ++ reads) :
    .call tap event found ∈ befores := by
  rcases List.mem_append.mp member with before | read
  · exact before
  · obtain ⟨_, ⟨⟩⟩ := begun.reading _ read

theorem Begun.passed (begun : compiler.Begun world befores reads) (member : .call tap event found ∈ befores ++ reads) :
    tap.answer event found = .ok () :=
  begun.calls.ok_iff.mp rfl _ _ _ (begun.mem_call member)

theorem Begun.early (begun : compiler.Begun world befores reads) (member : .call tap event found ∈ befores ++ reads) :
    event.signal ≠ .afterEmit := by
  obtain ⟨rfl, _⟩ := begun.calls.called (begun.mem_call member)
  nofun

theorem Built.early (built : compiler.Built world graph befores reads changes)
    (member : .call tap event found ∈ befores ++ reads ++ changes) : event.signal ≠ .afterEmit := by
  rcases List.mem_append.mp member with before | change
  · exact built.toBegun.early before
  · cases built.changing _ change

theorem Built.passed (built : compiler.Built world graph befores reads changes)
    (member : .call tap event found ∈ befores ++ reads ++ changes) : tap.answer event found = .ok () := by
  rcases List.mem_append.mp member with before | change
  · exact built.toBegun.passed before
  · cases built.changing _ change

/-- A callback behind the build is told of the graph and finds the bundle. -/
theorem Told.finds {answer : Except HookFailure Unit} (told : compiler.Told world graph befores reads changes afters answer)
    (member : .call tap event found ∈ befores ++ reads ++ changes ++ afters) (behind : event.signal = .afterEmit) :
    ∃ graph, (compiler.graph.run world).1 = .ok graph ∧ ((compiler.emit graph).run world).1 = .ok compiler.output.file ∧
      event = ending (compiler.summary graph) ∧ compiler.output.Wrote (Bundle.render graph) found := by
  rcases List.mem_append.mp member with earlier | after
  · exact absurd behind (told.toBuilt.early earlier)
  · obtain ⟨same, _, _, finding⟩ := told.answers.called after
    exact ⟨graph, told.found, told.emitted, same, finding⟩

theorem Told.blames {answer : Except HookFailure Unit} {reason : String}
    (told : compiler.Told world graph befores reads changes afters answer)
    (member : .call tap event found ∈ befores ++ reads ++ changes ++ afters)
    (failed : tap.answer event found = .error reason) : answer = .error ⟨tap.signal, tap.name, reason⟩ := by
  rcases List.mem_append.mp member with earlier | after
  · cases failed.symm.trans (told.toBuilt.passed earlier)
  · exact told.answers.blames after failed

variable (course : compiler.Course world deeds result left)

include course

/-- A callback behind the build is called only where there is a graph whose bundle is written. -/
theorem Course.finds (member : .call tap event found ∈ deeds) (behind : event.signal = .afterEmit) :
    ∃ graph, (compiler.graph.run world).1 = .ok graph ∧ ((compiler.emit graph).run world).1 = .ok compiler.output.file ∧
      event = ending (compiler.summary graph) ∧ compiler.output.Wrote (Bundle.render graph) found := by
  cases course with
  | stopped calls _ =>
    obtain ⟨rfl, _⟩ := calls.called member
    cases behind
  | graphless begun _ _ => exact absurd behind (begun.early member)
  | unwritten built _ _ => exact absurd behind (built.early member)
  | noticed told _ => exact told.finds member behind
  | finished told _ => exact told.finds member behind

/-- A run fails with the failure of a callback that was called. -/
theorem Course.blames {reason : String} (member : .call tap event found ∈ deeds)
    (failed : tap.answer event found = .error reason) : result = .error (.hook ⟨tap.signal, tap.name, reason⟩) := by
  cases course with
  | stopped calls _ => rw [Except.error.inj (calls.blames member failed)]
  | graphless begun _ _ => cases failed.symm.trans (begun.passed member)
  | unwritten built _ _ => cases failed.symm.trans (built.passed member)
  | noticed told _ => rw [Except.error.inj (told.blames member failed)]
  | finished told _ => cases told.blames member failed

/-- A run succeeds exactly if no callback fails that is called, and there is a graph whose bundle is written. -/
theorem Course.ok_iff : (∃ summary, result = .ok summary) ↔
    (∀ tap event found, .call tap event found ∈ deeds → tap.answer event found = .ok ()) ∧
      ∃ graph, (compiler.graph.run world).1 = .ok graph ∧ ∃ file, ((compiler.emit graph).run world).1 = .ok file := by
  constructor
  · rintro ⟨summary, fine⟩
    refine ⟨fun tap event found member => ?_, ?_⟩
    · cases answers : tap.answer event found with
      | ok _ => rfl
      | error reason => cases fine.symm.trans (course.blames member answers)
    · cases course with
      | finished told _ => exact ⟨_, told.found, _, told.emitted⟩
      | _ => cases fine
  · rintro ⟨pass, graph, finds, file, emits⟩
    cases course with
    | stopped calls _ => cases calls.ok_iff.mpr pass
    | graphless _ failed _ => cases failed.symm.trans finds
    | unwritten built failed _ =>
      cases built.found.symm.trans finds
      cases failed.symm.trans emits
    | noticed told _ =>
      cases told.answers.ok_iff.mpr fun tap event found member => pass tap event found (List.mem_append_right _ member)
    | finished => exact ⟨_, rfl⟩

/-- A run that fails before the callbacks behind the build leaves all that was there. -/
theorem Course.keeps {e : RunError} {place : Place} {item : Item} (absolute : compiler.config.root.isAbsolute = true)
    (linkless : world.tree.Linkless) (grounded : world.tree.Grounded) (failed : result = .error e)
    (early : ∀ failure, e = .hook failure → failure.signal ≠ .afterEmit) (there : world.tree.at? place = some item) :
    left.tree.at? place = some item := by
  cases course with
  | stopped _ same => exact same.1 ▸ there
  | graphless _ _ same => exact same.1 ▸ there
  | @unwritten _ _ _ graph _ _ _ unwritten same =>
    rw [same.1]
    cases checked : compiler.output.check compiler.config.root with
    | error e =>
      rw [emit, Output.emit_refused_eq checked]
      exact there
    | ok _ =>
      obtain ⟨above, last, _, stands⟩ := Output.stands_of_check (isAbsolute_outputDir absolute) checked
      exact Output.emit_keeps stands (Output.check_eq_ok checked).1 (linkless.linkFree above) grounded unwritten there
  | noticed told _ =>
    cases failed
    exact absurd (told.answers.signal rfl) (early _ rfl)
  | finished => cases failed

end Exits

/-- A run calls the callbacks before the build, up to one that fails; where none does it reads files, and where it finds a
graph it writes the bundle; where that is written it calls the callbacks behind the build, which all find it, up to one
that fails. It succeeds if nothing fails, names a callback that fails, and leaves all that was there where it fails earlier. -/
theorem run_course (compiler : Compiler Session) (world : World) (quiet : compiler.hooks.Quiet) (sound : world.Sound) :
    let run := compiler.run.run world
    let watched := compiler.observed.run.run ⟨world, []⟩
    watched.1 = run.1 ∧ watched.2.world = run.2 ∧ compiler.Course world watched.2.deeds run.1 run.2 ∧
    ((∃ summary, run.1 = .ok summary) ↔
      (∀ tap event found, .call tap event found ∈ watched.2.deeds → tap.answer event found = .ok ()) ∧
      ∃ graph, (compiler.graph.run world).1 = .ok graph ∧ ∃ file, ((compiler.emit graph).run world).1 = .ok file) ∧
    (∀ tap event found, .call tap event found ∈ watched.2.deeds → event.signal = .afterEmit →
      ∃ graph, (compiler.graph.run world).1 = .ok graph ∧ ((compiler.emit graph).run world).1 = .ok compiler.output.file ∧
        event = ending (compiler.summary graph) ∧ compiler.output.Wrote (Bundle.render graph) found) ∧
    (∀ tap event found reason, .call tap event found ∈ watched.2.deeds → tap.answer event found = .error reason →
      run.1 = .error (.hook ⟨tap.signal, tap.name, reason⟩)) ∧
    (compiler.config.root.isAbsolute = true → world.tree.Linkless → ∀ e, run.1 = .error e →
      (∀ failure, e = .hook failure → failure.signal ≠ .afterEmit) →
      ∀ place item, world.tree.at? place = some item → run.2.tree.at? place = some item) := by
  obtain ⟨deeds, result, left, plain, watched, course⟩ := run_observed quiet sound
  rw [plain, watched]
  exact ⟨rfl, rfl, course, course.ok_iff, fun _ _ _ => course.finds, fun _ _ _ _ => course.blames,
    fun absolute linkless _ failed early _ _ => course.keeps absolute linkless sound.grounded failed early⟩

/-- The compiler of the project with callbacks for both signals. -/
def tapped (before after : Except String Unit) : Compiler Session where
  config := (into "dist").config
  rules := []
  hooks := ((Hooks.tap {} .afterEmit "first" fun _ => return .ok ()).tap .beforeBuild "second" fun _ => return before).tap
    .afterEmit "third" fun _ => return after

theorem quiet_tapped (before after : Except String Unit) : (tapped before after).hooks.Quiet := by
  intro tap member event world
  simp only [tapped, Hooks.tap, List.nil_append, List.cons_append, List.mem_cons, List.not_mem_nil, or_false] at member
  rcases member with rfl | rfl | rfl <;> exact .refl world

theorem sources_sound : sources.Sound := ⟨sources_grounded, nofun, nofun⟩

/-- Where nothing fails all callbacks are called, each at its time; where the one before the build fails no other one is
called, and all is as it was. -/
theorem run_course_tapped :
    (∃ deeds left, (tapped (.ok ()) (.ok ())).Course sources deeds (.ok ⟨⟨"./src/a.js"⟩, 1, ⟨"/p/dist/main.js"⟩⟩) left ∧
      deeds.filterMap Deed.caller? = ["second", "first", "third"]) ∧
    ∃ deeds left, (tapped (.error "no") (.ok ())).Course sources deeds (.error (.hook ⟨.beforeBuild, "second", "no"⟩)) left ∧
      deeds.filterMap Deed.caller? = ["second"] ∧
      ∀ place item, sources.tree.at? place = some item → left.tree.at? place = some item := by
  have course (before after : Except String Unit) :=
    run_course (tapped before after) sources (quiet_tapped before after) sources_sound
  dsimp only at course
  constructor
  · obtain ⟨_, _, course, _⟩ := course (.ok ()) (.ok ())
    have done : ((tapped (.ok ()) (.ok ())).run.run sources).1 = .ok ⟨⟨"./src/a.js"⟩, 1, ⟨"/p/dist/main.js"⟩⟩ :=
      eq_ok_of_toOption (by decide +kernel)
    rw [done] at course
    exact ⟨_, _, course, by decide +kernel⟩
  · obtain ⟨_, _, course, _, _, _, keeps⟩ := course (.error "no") (.ok ())
    have failed : ((tapped (.error "no") (.ok ())).run.run sources).1 = .error (.hook ⟨.beforeBuild, "second", "no"⟩) := rfl
    have kept := keeps rfl sources_linkless _ failed (by rintro _ ⟨⟩; decide)
    rw [failed] at course
    exact ⟨_, _, course, by decide +kernel, kept⟩

open FileTree Bundler.Path

def lastName : String := "ooooooooooooooooooooooooooooooo"

/-- A callback that looks for the file that has been written. -/
def lookout : Tap Session where
  signal := .afterEmit
  name := "look"
  callback
    | .afterEmit _ _ file => do if ← Host.isFile file then return .ok () else return .error "There is no file."
    | .beforeBuild .. => return .ok ()

/-- A compiler with that callback that writes into a directory whose path is as long as a path can be. -/
def looking : Compiler Session where
  config := { root := ⟨"/p"⟩, entry := "a.js", output := { path := (pathOf (deep ++ [lastName])).text, filename := "m" } }
  rules := []
  hooks := ⟨[lookout]⟩

theorem stands_looking : looking.output.Stands deep lastName := stands_deep (by simp [IsName, IsSegment, lastName])

theorem lookout_run (entry : ModuleId) (moduleCount : Nat) (file : Path) (world : World) :
    (lookout.callback (.afterEmit entry moduleCount file)).run world =
      (if world.tree.isFile world.current file then .ok () else .error "There is no file.", world) := by
  have asks : (Host.isFile file : Session Bool).run world = (world.tree.isFile world.current file, world) := rfl
  unfold lookout
  dsimp only
  rw [run_bind_of asks]
  split <;> rfl

theorem quiet_looking : looking.hooks.Quiet := by
  intro tap member event world
  obtain rfl := List.mem_singleton.mp member
  cases event with
  | beforeBuild root entry => exact .refl world
  | afterEmit entry moduleCount file =>
    rw [lookout_run]
    exact .refl world

theorem far_sound : far.Sound := ⟨far_grounded, nofun, nofun⟩

/-- The path of the file is too long. -/
theorem look_looking (tree : FileTree) (current : Option Place) :
    tree.look current looking.output.file = .error .nameTooLong := by
  have piece : IsPiece "m" := by simp [IsPiece]
  have file : looking.output.file = pathOf (deep ++ [lastName] ++ ["m"]) := stands_looking.file piece
  have zero : '\x00' ∉ (pathOf (deep ++ [lastName] ++ ["m"])).text.toList := by
    rw [zero_pathOf, List.append_assoc, List.forall_mem_append]
    exact ⟨zero_deep, by decide⟩
  have long : (pathOf (deep ++ [lastName] ++ ["m"])).text.utf8ByteSize > maxPath := by
    rw [size_pathOf (by simp), List.append_assoc, span_append, span_deep]
    decide
  unfold FileTree.look locate
  rw [file, if_neg zero, if_neg (by simp [pathOf]), if_pos long]
  rfl

theorem looking_emits : ((looking.emit Output.lone).run far).1 = .ok looking.output.file := by
  have fits : Fits (deep ++ [lastName]) := fits_deep_iff.mpr (by decide)
  obtain ⟨roomy, clear⟩ := far_roomy (show looking.output.filename = "m" from rfl) (by decide) fits
  exact emit_of_roomy (.refl far) rfl (far_allowed stands_looking rfl) stands_looking far_linkless far_grounded far_way
    roomy clear

/-- A run with one callback fails if that is one behind the build that fails whatever it finds. -/
theorem run_of_failing {tap : Tap Session} {reason : String} (sound : world.Sound) (quiet : compiler.hooks.Quiet)
    (alone : compiler.hooks.taps = [tap]) (on : tap.signal = .afterEmit) (finds : (compiler.graph.run world).1 = .ok graph)
    (emits : ((compiler.emit graph).run world).1 = .ok compiler.output.file)
    (fails : ∀ found, tap.answer (ending (compiler.summary graph)) found = .error reason) :
    (compiler.run.run world).1 = .error (.hook ⟨tap.signal, tap.name, reason⟩) := by
  obtain ⟨deeds, result, left, plain, _, course⟩ := run_observed quiet sound
  rw [plain]
  cases course with
  | stopped calls _ =>
    rw [alone] at calls
    cases calls with
    | other _ onward => cases onward
    | fails on' _ _ => cases on.symm.trans on'
    | passes on' _ _ _ => cases on.symm.trans on'
  | graphless _ failed _ => cases failed.symm.trans finds
  | unwritten built failed _ =>
    cases built.found.symm.trans finds
    cases failed.symm.trans emits
  | noticed told _ =>
    cases told.found.symm.trans finds
    cases (alone ▸ told.answers).of_failing on fails
    rfl
  | finished told _ =>
    cases told.found.symm.trans finds
    cases (alone ▸ told.answers).of_failing on fails

/-- A callback cannot see the file of the output, though it is there, where the path of the directory leaves no room for
its name. -/
theorem run_unseen : far.Sound ∧ far.tree.Linkless ∧ looking.hooks.Quiet ∧
    (looking.graph.run far).1 = .ok Output.lone ∧ ((looking.emit Output.lone).run far).1 = .ok looking.output.file ∧
    (∀ world : World, world.files looking.output.file = .error .nameTooLong) ∧
    (looking.run.run far).1 = .error (.hook ⟨.afterEmit, "look", "There is no file."⟩) := by
  have finds : (looking.graph.run far).1 = .ok Output.lone := graph_of_far rfl rfl
  have fails (found : World) : lookout.answer (ending (looking.summary Output.lone)) found = .error "There is no file." := by
    have absent : found.tree.isFile found.current looking.output.file = false := by
      rw [isFile, look_looking]
    rw [Tap.answer, ending, lookout_run, summary, absent, if_neg Bool.false_ne_true]
  refine ⟨far_sound, far_linkless, quiet_looking, finds, looking_emits, fun world => ?_, ?_⟩
  · rw [World.files, readText, look_looking]
    rfl
  · exact run_of_failing far_sound quiet_looking rfl rfl finds looking_emits fails

end Compiler

end Bundler
