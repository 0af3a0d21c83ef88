import Bundler.Proofs.Build.Sources
import Bundler.Proofs.Build.Writable
import Bundler.Proofs.Project.Relocation

/-!
What a run does behind one that has succeeded. It finds the same graph, where the output holds no module, and writes the
same bundle over the old one; all it needs besides is room for the old output to wait in.
-/

namespace Bundler

namespace Output

open FileTree Bundler.Path

variable {output : Output} {above place : Place} {last filename bundle : String} {old new newer made : FileTree}
  {world after : World} {n : Nat}

theorem Holds.at?_eq (holds : Holds old place filename bundle) (holds' : Holds new place filename bundle) (rest : Place) :
    new.at? (place ++ rest) = old.at? (place ++ rest) := by
  obtain ⟨directory, file, nothing⟩ := holds
  obtain ⟨directory', file', nothing'⟩ := holds'
  by_cases top : rest = []
  · rw [top, List.append_nil, directory, directory']
  by_cases held : rest = [filename]
  · rw [held, file, file']
  · rw [nothing rest top held, nothing' rest top held]

section Replaced

variable (replaced : output.Replaced above last bundle old new)

include replaced

theorem Replaced.grounded (grounded : old.Grounded) : new.Grounded := by
  intro place name stands
  by_cases inside : above ++ [last] <+: place ++ [name]
  · rcases List.prefix_concat_iff.mp inside with here | ⟨rest, rfl⟩
    · obtain ⟨rfl, _⟩ := List.append_inj' here rfl
      exact replaced.hasWay_above _ List.prefix_rfl
    · obtain ⟨item, found⟩ := Option.ne_none_iff_exists'.mp stands
      rw [List.append_assoc] at found
      rcases replaced.holds.of_at? found with ⟨top, _⟩ | ⟨held, _⟩
      · exact absurd top (by simp)
      · have top : rest = [] := by simpa using congrArg List.length held
        rw [top, List.append_nil, replaced.holds.1]
  · obtain ⟨grown, growing, way, same⟩ := replaced.others
    rw [same _ inside] at stands
    rw [same _ fun below => inside (below.trans (List.prefix_append ..))]
    rcases growing (place ++ [name]) with before | ⟨_, _, front⟩
    · exact growing.keeps (grounded place name (before ▸ stands))
    · exact way place ((List.prefix_append ..).trans front)

/-- A second replacement by the same bundle changes nothing. -/
theorem Replaced.again (replaced' : output.Replaced above last bundle new newer) (place : Place) :
    newer.at? place = new.at? place := by
  by_cases inside : above ++ [last] <+: place
  · obtain ⟨rest, rfl⟩ := inside
    exact replaced.holds.at?_eq replaced'.holds rest
  · obtain ⟨_, growing, _, same⟩ := replaced'.others
    rw [same place inside]
    rcases growing place with still | ⟨unused, _, front⟩
    · exact still
    · rw [replaced.hasWay_above place front] at unused
      cases unused

theorem Replaced.beside {name : String} (apart : last ≠ name) :
    new.at? (above ++ [name]) = old.at? (above ++ [name]) := by
  obtain ⟨_, growing, _, same⟩ := replaced.others
  rw [same _ (by simpa using apart), growing.beyond]

/-- Where there was room for a new output, there is room for the next one. -/
theorem Replaced.roomy (growing : GrownTo above old made) (roomy : output.Roomy above last made n) :
    output.Roomy above last new n := by
  have beside {name : String} (apart : last ≠ name) : new.at? (above ++ [name]) = made.at? (above ++ [name]) := by
    rw [replaced.beside apart, growing.beyond]
  obtain ⟨⟨taken, fits, free⟩, apart, named, fitsFile, fitsOutput⟩ := roomy
  refine ⟨⟨fun m less => ?_, fits, (beside apart).trans free⟩, apart, named, fitsFile, fitsOutput⟩
  by_cases here : last = stagingName ++ freshEnd m
  · rw [← here, replaced.holds.1]
    simp
  · rw [beside here]
    exact taken m less

end Replaced

/-- A bundle that has been written can be written again exactly if the old output can be moved aside. -/
theorem write_again_iff {bundle' : String} (stands : output.Stands above last) (piece : IsPiece output.filename)
    (free : world.tree.LinkFree (above ++ [last])) (grounded : world.tree.Grounded)
    (wrote : ((output.write bundle : Session _).run world).1 = .ok ())
    (replaced : output.Replaced above last bundle world.tree after.tree) :
    ((output.write bundle' : Session _).run after).1 = .ok () ↔ Clear above last after.tree := by
  have freeAbove : world.tree.LinkFree above := free.anti (List.prefix_append ..)
  obtain ⟨made, created, _, ⟨n, roomy⟩, _⟩ :=
    (write_ok_iff_roomy stands piece freeAbove grounded (free _ List.prefix_rfl)).mp wrote
  have growing : GrownTo above world.tree (world.tree.createDirs world.current (pathOf above)).1 :=
    createDirs_grown stands.isName_above freeAbove
  rw [created] at growing
  have way := replaced.hasWay_above
  have standing : after.tree.createDirs after.current (pathOf above) = (after.tree, .ok ()) :=
    createDirs_standing stands.isName_above way roomy.place.above
  have plain (target : String) : after.tree.at? (above ++ [last]) ≠ some (.link target) := by
    rw [replaced.holds.1]
    simp
  rw [write_ok_iff_roomy stands piece way.linkFree (replaced.grounded grounded) plain, standing]
  constructor
  · rintro ⟨_, same, _, _, clear⟩
    rwa [(Prod.mk.inj same).1]
  · exact fun clear => ⟨_, rfl, way, ⟨n, replaced.roomy growing roomy⟩, clear⟩

theorem emit_again_iff {graph : ModuleGraph} {root file : Path} (stands : output.Stands above last)
    (free : world.tree.LinkFree (above ++ [last])) (grounded : world.tree.Grounded)
    (emitted : ((output.emit graph root : Session _).run world).1 = .ok file)
    (replaced : output.Replaced above last (Bundle.render graph) world.tree after.tree) :
    ((output.emit graph root : Session _).run after).1 = .ok file ↔ Clear above last after.tree := by
  obtain ⟨line, ok_iff⟩ := emit_ok_iff output graph root world
  obtain ⟨line', ok_iff'⟩ := emit_ok_iff output graph root after
  obtain ⟨allowed, valid, rfl, wrote⟩ := (ok_iff file).mp emitted
  have again : ((output.write (Bundle.render graph) : Session _).run (after.told line')).1 = .ok () ↔ _ :=
    write_again_iff stands (check_eq_ok allowed).1 (show (world.told line).tree.LinkFree _ from free) grounded wrote
      replaced
  rw [ok_iff', again, and_iff_right allowed, and_iff_right valid, and_iff_right rfl]
  rfl

end Output

namespace Compiler

open FileTree Bundler.Path

variable {compiler : Compiler Session} {world before after here : World} {graph : ModuleGraph} {summary : BuildSummary}
  {above : Place} {last bundle : String}

/-- Replacing an output that holds no module of a graph leaves the files of the graph. -/
theorem files_of_replaced {new : World} (absolute : compiler.config.root.isAbsolute = true)
    (linkless : world.tree.Linkless) (found : (compiler.graph.run world).1 = .ok graph)
    (replaced : compiler.output.Replaced above last bundle world.tree new.tree)
    (apart : ∀ built ∈ graph.modules, ¬ above ++ [last] <+: built.path.parts) :
    ∀ built ∈ graph.modules, new.files built.path = world.files built.path := by
  intro built member
  obtain ⟨place, name, text, proper, path, read⟩ := file_of_module absolute found member
  have parts : built.path.parts = place ++ [name] := path ▸ parts_ofParts fun other there => (proper other there).1
  have outside := apart built member
  rw [parts] at outside
  rw [read, World.files, path]
  rw [World.files, path] at read
  exact (replaced.readText_iff proper (linkless.linkFree _) read).mpr (.inl outside)

section Again

variable (ran : compiler.Ran world graph before after) (parts : compiler.output.directory.parts = above ++ [last])
  (absolute : compiler.config.root.isAbsolute = true) (linkless : world.tree.Linkless) (grounded : world.tree.Grounded)

include ran parts absolute linkless grounded

theorem Ran.emit_again_iff (same : here.Same (compiler.run.run world).2) :
    ((compiler.output.emit graph compiler.config.root : Session _).run here).1 = .ok compiler.output.file ↔
      Output.Clear above last (compiler.run.run world).2.tree := by
  obtain ⟨stands, replaced⟩ := ran.replaced parts absolute grounded (linkless.linkFree above)
  have free := linkless.linkFree (above ++ [last])
  have replaced' : compiler.output.Replaced above last (Bundle.render graph) before.tree here.tree := by
    rw [same.1, ran.same.1]
    exact replaced
  rw [Output.emit_again_iff stands (ran.same.1 ▸ free) (ran.same.1 ▸ grounded) ran.emits.ok replaced', same.1]

variable (apart : ∀ built ∈ graph.modules, ¬ above ++ [last] <+: built.path.parts)

include apart

theorem Ran.graph_again : (compiler.graph.run (compiler.run.run world).2).1 = .ok graph := by
  have replaced := (ran.replaced parts absolute grounded (linkless.linkFree above)).2
  have files := files_of_replaced absolute linkless ran.found replaced apart
  have found := ran.found
  rw [graph_eq] at found ⊢
  exact Project.graphWithin_of_files found files

variable (quiet : compiler.hooks.Quiet)

include quiet

/-- A second run that succeeds finds the graph of the first one. -/
theorem Ran.again (done : (compiler.run.run (compiler.run.run world).2).1 = .ok summary) : ∃ before' after',
    compiler.Ran (compiler.run.run world).2 graph before' after' ∧
      summary = ⟨graph.entry, graph.size, compiler.output.file⟩ := by
  obtain ⟨graph', before', after', ran', rfl⟩ := run_ok quiet done
  have found := ran.graph_again parts absolute linkless grounded apart
  obtain rfl : graph = graph' := Except.ok.inj (found.symm.trans ran'.found)
  exact ⟨before', after', ran', rfl⟩

theorem Ran.again_ok_iff (steady : compiler.hooks.Steady) :
    (∃ summary, (compiler.run.run (compiler.run.run world).2).1 = .ok summary) ↔
      Output.Clear above last (compiler.run.run world).2.tree := by
  constructor
  · rintro ⟨_, done⟩
    obtain ⟨_, _, ran', _⟩ := ran.again parts absolute linkless grounded apart quiet done
    exact (ran.emit_again_iff parts absolute linkless grounded ran'.same).mp ran'.emits.ok
  · intro clear
    have found := ran.graph_again parts absolute linkless grounded apart
    have emits (here : World) (same : here.Same (compiler.run.run world).2) :=
      (ran.emit_again_iff parts absolute linkless grounded same).mpr clear
    exact ⟨_, run_of quiet steady ran.begun found emits ran.ended⟩

end Again

/-- Where no link stands and no module is in the output directory, a second run that succeeds gives what the first one gave,
and leaves the files as that one left them. If the callbacks answer by what they are told alone, it succeeds exactly if the
old output can be moved aside. -/
theorem run_again_iff (absolute : compiler.config.root.isAbsolute = true) (quiet : compiler.hooks.Quiet)
    (linkless : world.tree.Linkless) (grounded : world.tree.Grounded)
    (done : (compiler.run.run world).1 = .ok summary)
    (apart : ∀ graph, (compiler.graph.run world).1 = .ok graph →
      ∀ built ∈ graph.modules, ¬ compiler.output.directory.parts <+: built.path.parts) :
    let once := (compiler.run.run world).2
    let again := compiler.run.run once
    ∃ above last, compiler.output.directory.parts = above ++ [last] ∧
      (compiler.hooks.Steady → ((∃ summary', again.1 = .ok summary') ↔ Output.Clear above last once.tree)) ∧
      ∀ summary', again.1 = .ok summary' → summary' = summary ∧
        (∀ place, again.2.tree.at? place = once.tree.at? place) ∧
        ∃ bundle, once.tree.at? (above ++ [last] ++ [compiler.output.filename]) = some (.file (.text bundle)) ∧
          again.2.tree.at? (above ++ [last] ++ [compiler.output.filename]) = some (.file (.text bundle)) := by
  intro once again
  obtain ⟨graph, before, after, ran, rfl⟩ := run_ok quiet done
  obtain ⟨above, last, parts, _, _, replaced⟩ := ran.replaces absolute grounded (linkless.linkFree _)
  have apart := parts ▸ apart graph ran.found
  refine ⟨above, last, parts, ran.again_ok_iff parts absolute linkless grounded apart quiet, fun summary' done' => ?_⟩
  obtain ⟨before', after', ran', rfl⟩ := ran.again parts absolute linkless grounded apart quiet done'
  have replaced' := (ran'.replaced parts absolute (replaced.grounded grounded) replaced.hasWay_above.linkFree).2
  exact ⟨rfl, replaced.again replaced', _, replaced.holds.2.1, replaced'.holds.2.1⟩

theorem run_again_dist :
    let once := ((into "dist").run.run sources).2
    let again := (into "dist").run.run once
    again.1 = .ok ⟨⟨"./src/a.js"⟩, 1, ⟨"/p/dist/main.js"⟩⟩ ∧ ∀ place, again.2.tree.at? place = once.tree.at? place := by
  have place : (into "dist").output.directory.parts = ["p"] ++ ["dist"] := rfl
  have absolute : (into "dist").config.root.isAbsolute = true := rfl
  have apart (graph : ModuleGraph) (found : ((into "dist").graph.run sources).1 = .ok graph) (built : Module)
      (member : built ∈ graph.modules) : ¬ (into "dist").output.directory.parts <+: built.path.parts := by
    obtain rfl : graph = sourced := Except.ok.inj (found.symm.trans (sources_graph "dist"))
    obtain rfl := List.mem_singleton.mp member
    rw [place]
    decide
  obtain ⟨above, last, parts, runs, same⟩ :=
    run_again_iff absolute (quiet_into "dist") sources_linkless sources_grounded into_dist apart
  obtain ⟨rfl, named⟩ := List.append_inj' (place.symm.trans parts) rfl
  obtain rfl : "dist" = last := List.singleton_inj.mp named
  have clear : Output.Clear ["p"] "dist" ((into "dist").run.run sources).2.tree := by
    obtain ⟨_, _, _, ran, _⟩ := run_ok (quiet_into "dist") into_dist
    have replaced := (ran.replaced place absolute sources_grounded (sources_linkless.linkFree ["p"])).2
    refine Output.clear_of_fits fun n taken => ?_
    have unused : ((into "dist").run.run sources).2.tree.at? (["p"] ++ [Output.previousName ++ freshEnd 0]) = none :=
      (replaced.beside (by decide)).trans (by decide)
    obtain rfl : n = 0 := Nat.eq_zero_of_not_pos fun some => taken 0 some unused
    decide
  obtain ⟨summary, done⟩ := (runs (steady_into "dist")).mpr clear
  obtain ⟨equal, still, _⟩ := same summary done
  rw [equal] at done
  exact ⟨done, still⟩

def longName : String := String.ofList (List.replicate 238 'd')

/-- A directory whose path is almost as long as a path can be. -/
def deep : Place := List.replicate 17 longName

/-- A project of one module, and that directory. -/
def far : World where
  tree := ⟨[(["p"], .directory), (["p", "a.js"], .file (.text ""))] ++ (deep.inits.filter (· ≠ [])).map (·, .directory)⟩
  current := none

/-- The compiler of the project that writes into the directory. -/
def intoFar : Compiler Session where
  config := { root := ⟨"/p"⟩, entry := "a.js", output := { path := (pathOf (deep ++ ["o"])).text, filename := "m" } }
  rules := []
  hooks := {}

theorem quiet_intoFar : intoFar.hooks.Quiet := fun _ member => by cases member

theorem steady_intoFar : intoFar.hooks.Steady := fun _ member => by cases member

theorem size_longName : longName.utf8ByteSize = 238 := by decide +kernel

theorem longName_ne {name : String} (short : name.utf8ByteSize < 238) : longName ≠ name := by
  rintro rfl
  exact Nat.ne_of_lt short size_longName

theorem not_mem_longName {c : Char} (other : c ≠ 'd') : c ∉ longName.toList := by
  have chars : longName.toList = List.replicate 238 'd' := String.toList_ofList
  rw [chars, List.mem_replicate]
  exact fun member => other member.2

theorem isName_deep (named : IsName last) : ∀ name ∈ deep ++ [last], IsName name := by
  refine isName_concat (fun name member => ?_) named
  rw [List.eq_of_mem_replicate member]
  exact ⟨⟨longName_ne (by decide), longName_ne (by decide), not_mem_longName (by decide)⟩, longName_ne (by decide)⟩

theorem span_deep : span deep = 4063 := by simp [deep, span, size_longName]

theorem zero_deep : ∀ name ∈ deep, '\x00' ∉ name.toList := by
  intro name member
  rw [List.eq_of_mem_replicate member]
  exact not_mem_longName (by decide)

theorem fits_deep_iff {names : Place} : Fits (deep ++ names) ↔ span names ≤ 32 ∧
    ∀ name ∈ names, '\x00' ∉ name.toList ∧ name.utf8ByteSize ≤ maxName := by
  have plain : ∀ name ∈ deep, '\x00' ∉ name.toList ∧ name.utf8ByteSize ≤ maxName := by
    refine fun name member => ⟨zero_deep name member, ?_⟩
    rw [List.eq_of_mem_replicate member, size_longName]
    decide
  rw [fits_iff (by simp [deep]), span_append, span_deep, List.forall_mem_append, and_iff_right plain, maxPath]
  exact and_congr_left' (by omega)

theorem mem_far_iff {place : Place} {item : Item} : (place, item) ∈ far.tree.entries ↔
    place = ["p"] ∧ item = .directory ∨ place = ["p", "a.js"] ∧ item = .file (.text "") ∨
      (place ≠ [] ∧ place <+: deep) ∧ item = .directory := by
  simp only [far, List.mem_append, List.mem_cons, List.not_mem_nil, or_false, Prod.mk.injEq, List.mem_map,
    List.mem_filter, List.mem_inits, decide_eq_true_eq, or_assoc]
  constructor
  · rintro (one | file | ⟨_, ⟨front, some⟩, rfl, rfl⟩)
    · exact .inl one
    · exact .inr (.inl file)
    · exact .inr (.inr ⟨⟨some, front⟩, rfl⟩)
  · rintro (one | file | ⟨⟨some, front⟩, rfl⟩)
    · exact .inl one
    · exact .inr (.inl file)
    · exact .inr (.inr ⟨place, ⟨front, some⟩, rfl, rfl⟩)

theorem far_linkless : far.tree.Linkless := by
  rintro ⟨place, item⟩ member target
  rcases mem_far_iff.mp member with ⟨_, rfl⟩ | ⟨_, rfl⟩ | ⟨_, rfl⟩ <;> simp

theorem far_way : far.tree.HasWay deep := by
  intro above front
  by_cases top : above = []
  · rw [top, at?_root]
  have stands := at?_ne_none (mem_far_iff.mpr (.inr (.inr ⟨⟨top, front⟩, rfl⟩)))
  obtain ⟨item, found⟩ := Option.ne_none_iff_exists'.mp stands
  obtain ⟨rfl, rfl⟩ | ⟨rfl, rfl⟩ | ⟨_, rfl⟩ := mem_far_iff.mp (mem_of_at? found top)
  · exact found
  · exact absurd (List.eq_of_mem_replicate (front.subset (.head _))) (longName_ne (by decide)).symm
  · exact found

theorem far_bare (name : String) : far.tree.at? (deep ++ [name]) = none := by
  refine Decidable.byContradiction fun some => ?_
  obtain ⟨item, found⟩ := Option.ne_none_iff_exists'.mp some
  have long : (deep ++ [name]).length = 18 := by simp [deep]
  obtain ⟨same, _⟩ | ⟨same, _⟩ | ⟨⟨_, front⟩, _⟩ := mem_far_iff.mp (mem_of_at? found (by simp))
  · rw [same] at long
    cases long
  · rw [same] at long
    cases long
  · exact absurd front.length_le (by simp)

theorem far_grounded : far.tree.Grounded := by
  refine grounded_of_entries fun ⟨place, item⟩ member => ?_
  obtain ⟨rfl, rfl⟩ | ⟨rfl, rfl⟩ | ⟨⟨_, front⟩, rfl⟩ := mem_far_iff.mp member
  · rfl
  · rfl
  · exact far_way _ ((List.dropLast_prefix place).trans front)

theorem graph_of_far {compiler : Compiler Session} (project : compiler.project = ⟨⟨"/p"⟩, [], "js"⟩)
    (entry : compiler.config.entryPath = ⟨"/p/a.js"⟩) : (compiler.graph.run far).1 = .ok Output.lone := by
  rw [graph_eq, project, entry]
  exact eq_ok_of_toOption (by decide +kernel)

theorem far_graph : (intoFar.graph.run far).1 = .ok Output.lone := graph_of_far rfl rfl

/-- A compiler that is told to write into a directory of that one has its output there. -/
theorem stands_deep {root : Path} {filename : String} (named : IsName last) :
    (Output.of (root.join (pathOf (deep ++ [last])).text).normalize filename).Stands deep last := by
  have normal : (pathOf (deep ++ [last])).normalize = pathOf (deep ++ [last]) := normalize_ofParts (isName_deep named)
  have absolute : (pathOf (deep ++ [last])).text.toList.head? = some '/' := by simp [pathOf]
  refine Output.stands_of_directory ?_ (isName_deep named)
  rw [Output.of, Path.join, if_pos absolute]
  simp only [normal]

theorem far_allowed {output : Output} (stands : output.Stands deep last) (filename : output.filename = "m") :
    output.check ⟨"/p"⟩ = .ok () := by
  have outside : ¬ deep ++ [last] <+: (Path.mk "/p").normalize.parts := by
    have root : (Path.mk "/p").normalize.parts = ["p"] := rfl
    exact fun front => absurd (root ▸ front.length_le) (by simp [deep])
  exact Output.check_ok (by simp [filename]) (by simp [filename]) stands outside

theorem far_roomy {output : Output} (filename : output.filename = "m")
    (apart : last ≠ Output.stagingName ++ freshEnd 0) (fits : Fits (deep ++ [last])) :
    output.Roomy deep last far.tree 0 ∧ Output.Clear deep last far.tree := by
  refine ⟨⟨.zero (far_bare _) (fits_deep_iff.mpr (by decide)), apart, ?_, ?_, fits⟩, fun stands => absurd (far_bare last) stands⟩
  · simp [filename, IsName, IsSegment]
  · rw [filename, List.append_assoc, List.append_assoc]
    exact fits_deep_iff.mpr (by decide)

theorem stands_intoFar : intoFar.output.Stands deep "o" := stands_deep (by simp [IsName, IsSegment])

theorem parts_intoFar : intoFar.output.directory.parts = deep ++ ["o"] := by
  rw [stands_intoFar.directory]
  exact parts_ofParts fun name member => (stands_intoFar.proper name member).1

theorem into_far : (intoFar.run.run far).1 = .ok ⟨⟨"./a.js"⟩, 1, intoFar.output.file⟩ := by
  have fits : Fits (deep ++ ["o"]) := fits_deep_iff.mpr (by decide)
  obtain ⟨roomy, clear⟩ := far_roomy (show intoFar.output.filename = "m" from rfl) (by decide) fits
  exact run_of_roomy quiet_intoFar steady_intoFar ⟨far, rfl⟩ far_graph rfl (far_allowed stands_intoFar rfl) stands_intoFar
    far_linkless far_grounded far_way roomy clear ⟨far, rfl⟩

theorem far_apart : ∀ built ∈ Output.lone.modules, ¬ deep ++ ["o"] <+: built.path.parts := by
  intro built member front
  obtain rfl := List.mem_singleton.mp member
  have parts : (⟨"/p/a.js"⟩ : Path).parts = ["p", "a.js"] := rfl
  rw [parts] at front
  exact absurd front.length_le (by simp [deep])

/-- The path of the place where the old output is to wait is too long. -/
theorem far_not_again (summary : BuildSummary) : (intoFar.run.run (intoFar.run.run far).2).1 ≠ .ok summary := by
  intro done
  obtain ⟨graph, before, after, ran, _⟩ := run_ok quiet_intoFar into_far
  have absolute : intoFar.config.root.isAbsolute = true := rfl
  obtain rfl : graph = Output.lone := Except.ok.inj (ran.found.symm.trans far_graph)
  have clear : Output.Clear deep "o" _ := (ran.again_ok_iff parts_intoFar absolute far_linkless far_grounded far_apart
    quiet_intoFar steady_intoFar).mp ⟨summary, done⟩
  obtain ⟨_, replaced⟩ := ran.replaced parts_intoFar absolute far_grounded (far_linkless.linkFree deep)
  obtain ⟨k, first, fits⟩ := clear (by rw [replaced.holds.1]; simp)
  have unused : (intoFar.run.run far).2.tree.at? (deep ++ [Output.previousName ++ freshEnd 0]) = none := by
    rw [replaced.beside (by decide), far_bare]
  obtain rfl : k = 0 := Nat.eq_zero_of_not_pos fun some => first.taken 0 some unused
  rw [List.append_assoc, fits_deep_iff] at fits
  exact absurd fits (by decide)

/-- A compiler with a callback that refuses to build where there is an output. -/
def wary : Compiler Session where
  config := (into "dist").config
  rules := []
  hooks := .tap {} .beforeBuild "wary" fun _ => do
    if ← Host.isPresent ⟨"/p/dist"⟩ then return .error "There is an output." else return .ok ()

theorem quiet_wary : wary.hooks.Quiet := by
  intro tap member event world
  obtain rfl := List.mem_singleton.mp member
  have asks : (Host.isPresent ⟨"/p/dist"⟩ : Session Bool).run world =
      (world.tree.isPresent world.current ⟨"/p/dist"⟩, world) := rfl
  dsimp only
  rw [run_bind_of asks]
  split
  · exact .refl world
  · exact .refl world

/-- A second run can fail: where the path on which the old output is to wait is too long, and where a callback looks at what
the first one has written. -/
theorem run_not_again :
    (far.tree.Linkless ∧ far.tree.Grounded ∧ intoFar.hooks.Quiet ∧ intoFar.hooks.Steady ∧
      (intoFar.run.run far).1 = .ok ⟨⟨"./a.js"⟩, 1, intoFar.output.file⟩ ∧
      (∃ graph, (intoFar.graph.run far).1 = .ok graph ∧
        ∀ built ∈ graph.modules, ¬ intoFar.output.directory.parts <+: built.path.parts) ∧
      ∀ summary, (intoFar.run.run (intoFar.run.run far).2).1 ≠ .ok summary) ∧
    wary.hooks.Quiet ∧ (wary.run.run sources).1 = .ok ⟨⟨"./src/a.js"⟩, 1, ⟨"/p/dist/main.js"⟩⟩ ∧
      ∀ summary, (wary.run.run (wary.run.run sources).2).1 ≠ .ok summary := by
  refine ⟨⟨far_linkless, far_grounded, quiet_intoFar, steady_intoFar, into_far, ⟨_, far_graph, parts_intoFar ▸ far_apart⟩,
    far_not_again⟩, quiet_wary, eq_ok_of_toOption (by decide +kernel), fun summary done => ?_⟩
  have failed : (wary.run.run (wary.run.run sources).2).1.toOption = none := by decide +kernel
  rw [done] at failed
  cases failed

end Compiler

end Bundler
