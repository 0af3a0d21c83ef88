import Bundler.Build.Compiler
import Bundler.Proofs.Build.Output
import Bundler.Proofs.Host.Gives
import Bundler.Proofs.Project.Graph
import Bundler.Proofs.Project.Related

/-!
What a run comes to, by its phases: the callbacks before the build, the search, the bundle, and the callbacks behind it.
-/

namespace Bundler

variable {world before : World}

theorem eq_ok_of_toOption {ε α : Type} {result : Except ε α} {a : α} (fine : result.toOption = some a) :
    result = .ok a := by
  cases result with
  | error e => cases fine
  | ok b => exact congrArg Except.ok (Option.some.inj fine)

theorem World.Same.refl (world : World) : world.Same world := ⟨rfl, rfl⟩

theorem World.Same.trans {one other third : World} (first : one.Same other) (second : other.Same third) : one.Same third :=
  ⟨first.1.trans second.1, first.2.trans second.2⟩

theorem World.told_same (world : World) (line : LogLine) : (world.told line).Same world := ⟨rfl, rfl⟩

namespace Session

/-- Whether work changes nothing but the log. -/
def Leaves {α : Type} (work : Session α) : Prop := ∀ world, (work.run world).2.Same world

theorem leaves_related : Host.Related (m := Session) (n := Session) fun _ work _ => Leaves work where
  pure _ := .refl
  bind := by
    intro _ _ work _ go _ first second world
    rw [StateT.run_bind]
    exact (second _ _).trans (first world)
  log line world := world.told_same line

theorem leaves_readText (path : Path) : Leaves (Host.readText path : Session _) := .refl

end Session

namespace Hooks

variable {hooks : Hooks Session} {event : Event} {tap : Tap Session} {taps : List (Tap Session)}

/-- Whether the callbacks leave the files and the current directory as they are. -/
def Quiet (hooks : Hooks Session) : Prop :=
  ∀ tap ∈ hooks.taps, ∀ event world, ((tap.callback event).run world).2.Same world

/-- Whether the callbacks answer by what they are told alone. -/
def Steady (hooks : Hooks Session) : Prop :=
  ∀ tap ∈ hooks.taps, ∀ event world world', ((tap.callback event).run world).1 = ((tap.callback event).run world').1

theorem callAll_cons : ∃ line : LogLine, ∀ world,
    (callAll event (tap :: taps)).run world = match (tap.callback event).run (world.told line) with
      | (.ok (), called) => (callAll event taps).run called
      | (.error reason, called) => (.error ⟨event.signal, tap.name, reason⟩, called) := by
  let line : LogLine := ⟨.trace, .hooks, s!"Calling {event.signal.name} hook '{tap.name}'"⟩
  refine ⟨line, fun world => ?_⟩
  rw [callAll, run_bind_of (Session.run_log line)]
  rcases calls : (tap.callback event).run (world.told line) with ⟨_ | _, called⟩
  · rw [run_bind_of calls]
    rfl
  · rw [run_bind_of calls]

theorem callAll_same (quiet : ∀ tap ∈ taps, ∀ event world, ((tap.callback event).run world).2.Same world) :
    ((callAll event taps).run world).2.Same world := by
  induction taps generalizing world with
  | nil => exact .refl world
  | cons tap rest ih =>
    obtain ⟨line, runs⟩ := @callAll_cons event tap rest
    have kept := (quiet tap (by simp) event (world.told line)).trans (world.told_same line)
    rw [runs]
    rcases calls : (tap.callback event).run (world.told line) with ⟨_ | _, called⟩
    · rw [calls] at kept
      exact kept
    · rw [calls] at kept
      exact (ih fun other member => quiet other (List.mem_cons_of_mem _ member)).trans kept

theorem callAll_congr (steady : ∀ tap ∈ taps, ∀ event world world',
    ((tap.callback event).run world).1 = ((tap.callback event).run world').1) (world world' : World) :
    ((callAll event taps).run world).1 = ((callAll event taps).run world').1 := by
  induction taps generalizing world world' with
  | nil => rfl
  | cons tap rest ih =>
    obtain ⟨line, runs⟩ := @callAll_cons event tap rest
    have same := steady tap (by simp) event (world.told line) (world'.told line)
    rw [runs, runs]
    rcases calls : (tap.callback event).run (world.told line) with ⟨answer, called⟩
    rcases calls' : (tap.callback event).run (world'.told line) with ⟨answer', called'⟩
    rw [calls, calls'] at same
    obtain rfl : answer = answer' := same
    cases answer with
    | error reason => rfl
    | ok _ => exact ih (fun other member => steady other (List.mem_cons_of_mem _ member)) called called'

theorem Quiet.call_same (quiet : hooks.Quiet) : ((hooks.call event).run world).2.Same world :=
  callAll_same fun tap member => quiet tap (List.mem_of_mem_filter member)

theorem Steady.call_congr (steady : hooks.Steady) (world world' : World) :
    ((hooks.call event).run world).1 = ((hooks.call event).run world').1 :=
  callAll_congr (fun tap member => steady tap (List.mem_of_mem_filter member)) world world'

end Hooks

namespace Project

variable {project : Project} {entry : Path} {steps : Nat} {graph : ModuleGraph}

/-- Worlds that differ in their logs alone give one graph. -/
theorem graphWithin_same (same : before.Same world) : ((project.graphWithin steps entry : Session _).run before).1 =
    ((project.graphWithin steps entry : Session _).run world).1 :=
  graphWithin_congr (Session.stable world) (Session.stable world) same (Session.kept world [])

end Project

namespace Output

variable {output : Output} {graph : ModuleGraph} {root file : Path}

open Session

/-- A bundle is written where it is allowed to, for a graph that lacks nothing, in the file of the output. -/
theorem emit_ok_iff (output : Output) (graph : ModuleGraph) (root : Path) (world : World) : ∃ line, ∀ file,
    ((output.emit graph root : Session _).run world).1 = .ok file ↔ output.check root = .ok () ∧ graph.validate = .ok () ∧
      file = output.file ∧ ((output.write (Bundle.render graph) : Session _).run (world.told line)).1 = .ok () := by
  let bundle := Bundle.render graph
  refine ⟨⟨.debug, .emitter, s!"Rendered bundle of {graph.size} modules ({bundle.utf8ByteSize} bytes)"⟩, fun file => ?_⟩
  unfold emit
  cases output.check root with
  | error e =>
    simp only [reduceCtorEq, false_and, iff_false]
    nofun
  | ok _ =>
    cases graph.validate with
    | error e =>
      simp only [reduceCtorEq, false_and, and_false, iff_false]
      nofun
    | ok _ =>
      simp only [true_and]
      constructor
      · intro fine
        have done := gives_log.mp (gives_of_ok fine)
        obtain ⟨_, _, writes, done⟩ := gives_bind done not_gives_error
        cases (gives_log.mp done).ok
        exact ⟨rfl, writes.ok⟩
      · rintro ⟨rfl, writes⟩
        exact ok_then (ok_bind (gives_of_ok writes) (ok_then rfl))

open FileTree

/-- Whether a tree is as before but for an output that holds a bundle and nothing else, and directories on the way. -/
structure Replaced (output : Output) (above : Place) (last bundle : String) (old new : FileTree) : Prop where
  holds : Holds new (above ++ [last]) output.filename bundle
  others : ∃ grown, GrownTo above old grown ∧ grown.HasWay above ∧
    ∀ other, ¬ above ++ [last] <+: other → new.at? other = grown.at? other

section Replaced

variable {above place : Place} {last bundle : String} {old new : FileTree}
  (replaced : output.Replaced above last bundle old new)

include replaced

theorem Replaced.keeps {item : Item} (outside : ¬ above ++ [last] <+: place) (found : old.at? place = some item) :
    new.at? place = some item := by
  obtain ⟨grown, growing, _, same⟩ := replaced.others
  rw [same place outside, growing.keeps found]

theorem Replaced.hasWay (outside : ¬ above ++ [last] <+: place) (way : old.HasWay place) : new.HasWay place :=
  fun _ front => replaced.keeps (fun inside => outside (inside.trans front)) (way _ front)

theorem Replaced.hasWay_above : new.HasWay above := by
  obtain ⟨_, _, way, same⟩ := replaced.others
  exact way.congr fun other front => same other (not_prefix_above front)

theorem Replaced.linkFree (free : old.LinkFree place) : new.LinkFree place := by
  obtain ⟨grown, growing, _, same⟩ := replaced.others
  intro other front target found
  by_cases inside : above ++ [last] <+: other
  · obtain ⟨rest, rfl⟩ := inside
    rcases replaced.holds.of_at? found with ⟨_, plain⟩ | ⟨_, plain⟩
    · cases plain
    · cases plain
  · rw [same other inside] at found
    exact growing.linkFree free other front target found

end Replaced

theorem emit_replaces {above : Place} {last : String} {after : World} (stands : output.Stands above last)
    (free : world.tree.LinkFree above) (grounded : world.tree.Grounded)
    (done : (output.emit graph root : Session _).Gives world file after) :
    output.Replaced above last (Bundle.render graph) world.tree after.tree := by
  obtain ⟨line, ok_iff⟩ := emit_ok_iff output graph root world
  obtain ⟨allowed, _, rfl, _⟩ := (ok_iff file).mp done.ok
  have ensured : Trial.Ensures (output.emit graph root) ⟨world, [], [], []⟩
      (Ended output graph above last world.tree) := emit_ensures stands (check_eq_ok allowed).1 free grounded graph root
  obtain ⟨_, ended⟩ := (emit_follows graph root).gives ensured done
  rcases ended with ⟨e, failed, _⟩ | ⟨written, tree, grown, _, settled, ends⟩
  · cases failed
  match written with
  | .error e => cases ends
  | .ok () =>
    obtain ⟨_, holds, way⟩ := ends
    refine ⟨holds, tree, grown, way, fun other outside => ?_⟩
    rcases settled other outside with same | ⟨_, _, _, _, _, _, _, spared⟩
    · exact same
    · cases spared

end Output

namespace Compiler

open Session

variable {compiler : Compiler Session} {graph : ModuleGraph} {summary : BuildSummary}

theorem graph_eq (compiler : Compiler Session) :
    compiler.graph = compiler.project.graphWithin Project.maxSteps compiler.config.entryPath := rfl

theorem graph_same (same : before.Same world) : (compiler.graph.run before).1 = (compiler.graph.run world).1 := by
  rw [graph_eq]
  exact Project.graphWithin_same same

/-- A search changes nothing but the log. -/
theorem graph_leaves (compiler : Compiler Session) : Session.Leaves compiler.graph := by
  rw [graph_eq]
  exact Project.graphWithin_related leaves_related leaves_readText _ _ _

/-- What the callbacks before a build are told. -/
def beginning (compiler : Compiler Session) : Event := .beforeBuild compiler.config.root compiler.config.entryPath

/-- What the callbacks behind a build are told. -/
def ending (summary : BuildSummary) : Event := .afterEmit summary.entry summary.moduleCount summary.outputFile

theorem run_gives_iff (compiler : Compiler Session) (world : World) : ∃ line, ∀ summary after,
    compiler.run.Gives world summary after ↔ ∃ called graph searched,
      (compiler.hooks.call compiler.beginning).Gives (world.told line) () called ∧
      compiler.graph.Gives called graph searched ∧ (compiler.finish graph).Gives searched summary after := by
  refine ⟨⟨.info, .compiler, s!"Building {compiler.config.entryPath}"⟩, fun summary after => ?_⟩
  unfold run
  constructor
  · intro done
    have done := gives_log.mp (show Gives (Host.log _ >>= _) world summary after from done)
    obtain ⟨_, called, calls, done⟩ := gives_bind done not_gives_error
    obtain ⟨graph, searched, finds, done⟩ := gives_bind done not_gives_error
    exact ⟨called, graph, searched, calls, finds, done⟩
  · rintro ⟨called, graph, searched, calls, finds, finishes⟩
    refine (show Gives (Host.log _ >>= _) world summary after from ?_)
    exact gives_log.mpr (.bind calls (.bind finds finishes))

theorem finish_gives_iff (compiler : Compiler Session) (graph : ModuleGraph) : ∃ line : Path → LogLine,
    ∀ world summary after, (compiler.finish graph).Gives world summary after ↔ ∃ file written called,
      (compiler.output.emit graph compiler.config.root : Session _).Gives world file written ∧
      (compiler.hooks.call (ending ⟨graph.entry, graph.size, file⟩)).Gives written () called ∧
      summary = ⟨graph.entry, graph.size, file⟩ ∧ after = called.told (line file) := by
  refine ⟨fun file => ⟨.info, .compiler, s!"Bundled {graph.size} modules into {file}"⟩, fun world summary after => ?_⟩
  unfold finish
  constructor
  · intro done
    obtain ⟨file, written, emits, done⟩ := gives_bind done not_gives_error
    obtain ⟨_, called, calls, done⟩ := gives_bind done not_gives_error
    cases gives_log.mp done
    exact ⟨file, written, called, emits, calls, rfl, rfl⟩
  · rintro ⟨file, written, called, emits, calls, rfl, rfl⟩
    exact .bind emits (.bind calls (gives_log.mpr (.pure _ _)))

/-- What happens in a run that succeeds. -/
structure Ran (compiler : Compiler Session) (world : World) (graph : ModuleGraph) (before after : World) : Prop where
  begun : ∃ w, ((compiler.hooks.call compiler.beginning).run w).1 = .ok ()
  found : (compiler.graph.run world).1 = .ok graph
  same : before.Same world
  emits : (compiler.output.emit graph compiler.config.root : Session _).Gives before compiler.output.file after
  ended : ∃ w, ((compiler.hooks.call (ending ⟨graph.entry, graph.size, compiler.output.file⟩)).run w).1 = .ok ()
  left : (compiler.run.run world).2.Same after

theorem run_ok (quiet : compiler.hooks.Quiet) (done : (compiler.run.run world).1 = .ok summary) :
    ∃ graph before after, compiler.Ran world graph before after ∧
      summary = ⟨graph.entry, graph.size, compiler.output.file⟩ := by
  obtain ⟨line, runs⟩ := run_gives_iff compiler world
  obtain ⟨called, graph, searched, calls, finds, done⟩ := (runs _ _).mp (gives_of_ok done)
  obtain ⟨line', finishes⟩ := finish_gives_iff compiler graph
  obtain ⟨file, written, called', emits, calls', rfl, ends⟩ := (finishes _ _ _).mp done
  obtain ⟨_, allowed⟩ := Output.emit_ok_iff compiler.output graph compiler.config.root searched
  obtain rfl := ((allowed file).mp emits.ok).2.2.1
  have kept : called.Same world := (calls.left ▸ quiet.call_same).trans (world.told_same line)
  have leaves : searched.Same called := finds.left ▸ compiler.graph_leaves called
  have kept' : called'.Same written := calls'.left ▸ quiet.call_same
  refine ⟨graph, searched, written, ⟨⟨_, calls.ok⟩, (graph_same kept).symm.trans finds.ok, leaves.trans kept, emits,
    ⟨_, calls'.ok⟩, ?_⟩, rfl⟩
  rw [ends]
  exact (called'.told_same _).trans kept'

/-- Where the callbacks answer by what they are told, a run goes as another one did if it writes the bundle of the same
graph. -/
theorem run_of (quiet : compiler.hooks.Quiet) (steady : compiler.hooks.Steady)
    (begun : ∃ w, ((compiler.hooks.call compiler.beginning).run w).1 = .ok ())
    (found : (compiler.graph.run world).1 = .ok graph)
    (emits : ∀ before, before.Same world →
      ((compiler.output.emit graph compiler.config.root : Session _).run before).1 = .ok compiler.output.file)
    (ended : ∃ w, ((compiler.hooks.call (ending ⟨graph.entry, graph.size, compiler.output.file⟩)).run w).1 = .ok ()) :
    (compiler.run.run world).1 = .ok ⟨graph.entry, graph.size, compiler.output.file⟩ := by
  obtain ⟨w, begun⟩ := begun
  obtain ⟨w', ended⟩ := ended
  obtain ⟨line, runs⟩ := run_gives_iff compiler world
  obtain ⟨line', finishes⟩ := finish_gives_iff compiler graph
  have calls := gives_of_ok ((steady.call_congr (world.told line) w).trans begun)
  have kept : ((compiler.hooks.call compiler.beginning).run (world.told line)).2.Same world :=
    quiet.call_same.trans (world.told_same line)
  have finds := gives_of_ok ((graph_same kept).trans found)
  have leaves := (compiler.graph_leaves _).trans kept
  have writes := gives_of_ok (emits _ leaves)
  have calls' (written : World) := gives_of_ok ((steady.call_congr written w').trans ended)
  exact ((runs _ _).mpr ⟨_, graph, _, calls, finds, (finishes _ _ _).mpr ⟨_, _, _, writes, calls' _, rfl, rfl⟩⟩).ok

end Compiler

end Bundler
