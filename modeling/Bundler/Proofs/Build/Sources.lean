import Bundler.Proofs.Build.Run
import Bundler.Proofs.Build.Writable
import Bundler.Proofs.Project.Files

/-!
What becomes of the sources of a bundle. The output is replaced as a whole, so a source at or inside its directory is
lost; it is kept where it is outside.
-/

namespace Bundler

namespace Output

open FileTree Bundler.Path

variable {output : Output} {above place : Place} {last name text bundle : String} {old new : FileTree}
  {current current' : Option Place}

theorem Stands.file (stands : output.Stands above last) (piece : IsPiece output.filename) :
    output.file = pathOf (above ++ [last] ++ [output.filename]) := by
  rw [Output.file, stands.directory]
  exact join_pathOf stands.proper piece

/-- A file reads as before exactly if it is outside the output, or is the new file and had its text. -/
theorem Replaced.readText_iff (replaced : output.Replaced above last bundle old new)
    (proper : ∀ other ∈ place ++ [name], IsName other) (free : old.LinkFree (place ++ [name]))
    (read : old.readText current (pathOf (place ++ [name])) = .ok text) :
    new.readText current' (pathOf (place ++ [name])) = .ok text ↔
      ¬ above ++ [last] <+: place ++ [name] ∨
        place ++ [name] = above ++ [last] ++ [output.filename] ∧ text = bundle := by
  obtain ⟨fits, way, found⟩ := (readText_eq_ok_iff proper free).mp read
  rw [readText_eq_ok_iff proper (replaced.linkFree free), and_iff_right fits]
  by_cases inside : above ++ [last] <+: place ++ [name]
  · rw [or_iff_right (not_not_intro inside)]
    constructor
    · rintro ⟨_, found'⟩
      obtain ⟨rest, below⟩ := inside
      rw [← below] at found' ⊢
      rcases replaced.holds.of_at? found' with ⟨_, other⟩ | ⟨held, same⟩
      · cases other
      · cases same
        exact ⟨by rw [held], rfl⟩
    · rintro ⟨same, rfl⟩
      obtain ⟨rfl, _⟩ := List.append_inj' same rfl
      have outside : ¬ above ++ [last] <+: above := fun front => absurd front.length_le (by simp)
      obtain ⟨directory, file, _⟩ := replaced.holds
      exact ⟨(replaced.hasWay outside (way.anti (List.prefix_append ..))).append directory, same ▸ file⟩
  · have outside : ¬ above ++ [last] <+: place := fun front => inside (front.trans (List.prefix_append ..))
    simp only [inside, not_false_eq_true, true_or, iff_true]
    exact ⟨replaced.hasWay outside way, replaced.keeps inside found⟩

end Output

namespace Compiler

open FileTree Bundler.Path

variable {compiler : Compiler Session} {world before after : World} {graph : ModuleGraph} {built : Module}
  {above : Place} {last : String}

theorem isAbsolute_outputDir (absolute : compiler.config.root.isAbsolute = true) :
    compiler.config.outputDir.isAbsolute = true :=
  isAbsolute_normalize (isAbsolute_join absolute _)

/-- The file of a module has a name in a directory, and is a text. -/
theorem file_of_module (absolute : compiler.config.root.isAbsolute = true)
    (found : (compiler.graph.run world).1 = .ok graph) (member : built ∈ graph.modules) :
    ∃ place name text, (∀ other ∈ place ++ [name], IsName other) ∧ built.path = pathOf (place ++ [name]) ∧
      world.files built.path = .ok text := by
  rw [graph_eq] at found
  obtain ⟨id, named, yields⟩ := Project.graphWithin_yields (.ok graph) found
  obtain ⟨_, _, held, ends⟩ := yields.reached
  cases ends
  obtain ⟨text, read⟩ := Project.text_of_answer (held.modules built member)
  obtain ⟨canonical, path, _⟩ := Project.modules_of_graph found member
  rw [← path] at read
  have absolute : compiler.project.root.isAbsolute = true := absolute
  obtain ⟨parts, proper, same⟩ := canonical.toPath_eq absolute
  have same : built.path = pathOf parts := path.trans same
  rcases List.eq_nil_or_concat parts with rfl | ⟨place, name, rfl⟩
  · rw [same] at read
    cases read
  · rw [List.concat_eq_append] at proper same
    exact ⟨place, name, text, proper, same, read⟩

/-- What a successful run has done to the files: the output is replaced. -/
theorem Ran.replaces (ran : compiler.Ran world graph before after)
    (absolute : compiler.config.root.isAbsolute = true) (grounded : world.tree.Grounded)
    (free : world.tree.LinkFree compiler.output.directory.parts.dropLast) :
    ∃ above last, compiler.output.directory.parts = above ++ [last] ∧ compiler.output.Stands above last ∧
      IsPiece compiler.output.filename ∧
      compiler.output.Replaced above last (Bundle.render graph) world.tree (compiler.run.run world).2.tree := by
  obtain ⟨_, ok_iff⟩ := Output.emit_ok_iff compiler.output graph compiler.config.root before
  have allowed := ((ok_iff _).mp ran.emits.ok).1
  obtain ⟨above, last, parts, stands⟩ := Output.stands_of_check (isAbsolute_outputDir absolute) allowed
  have parts : compiler.output.directory.parts = above ++ [last] := parts
  rw [parts, List.dropLast_concat] at free
  refine ⟨above, last, parts, stands, (Output.check_eq_ok allowed).1, ?_⟩
  have replaced := Output.emit_replaces stands (ran.same.1 ▸ free) (ran.same.1 ▸ grounded) ran.emits
  rwa [ran.same.1, ← ran.left.1] at replaced

theorem Ran.replaced (ran : compiler.Ran world graph before after)
    (parts : compiler.output.directory.parts = above ++ [last]) (absolute : compiler.config.root.isAbsolute = true)
    (grounded : world.tree.Grounded) (free : world.tree.LinkFree above) : compiler.output.Stands above last ∧
      compiler.output.Replaced above last (Bundle.render graph) world.tree (compiler.run.run world).2.tree := by
  rw [← @List.dropLast_concat _ above last, ← parts] at free
  obtain ⟨above', last', parts', stands, _, replaced⟩ := ran.replaces absolute grounded free
  obtain ⟨rfl, same⟩ := List.append_inj' (parts.symm.trans parts') rfl
  obtain rfl : last = last' := List.singleton_inj.mp same
  exact ⟨stands, replaced⟩

/-- A source of a bundle is still there when the bundle has been written exactly if it is outside the output directory,
or is the file of the bundle and has the text of it already. -/
theorem run_keeps_source_iff {summary : BuildSummary} (absolute : compiler.config.root.isAbsolute = true)
    (quiet : compiler.hooks.Quiet) (grounded : world.tree.Grounded)
    (free : world.tree.LinkFree compiler.output.directory.parts.dropLast)
    (done : (compiler.run.run world).1 = .ok summary) :
    ∃ graph, (compiler.graph.run world).1 = .ok graph ∧
      ∀ built ∈ graph.modules, world.tree.LinkFree built.path.parts →
        ∃ text, world.files built.path = .ok text ∧
          ((compiler.run.run world).2.files built.path = .ok text ↔
            ¬ compiler.output.directory.parts <+: built.path.parts ∨
              built.path = compiler.output.file ∧ text = Bundle.render graph) := by
  obtain ⟨graph, before, after, ran, _⟩ := run_ok quiet done
  obtain ⟨above, last, parts, stands, piece, replaced⟩ := ran.replaces absolute grounded free
  refine ⟨graph, ran.found, fun built member direct => ?_⟩
  obtain ⟨place, name, text, proper, path, read⟩ := file_of_module absolute ran.found member
  have here : built.path.parts = place ++ [name] := path ▸ parts_ofParts fun other there => (proper other there).1
  rw [here] at direct ⊢
  refine ⟨text, read, ?_⟩
  have same : built.path = compiler.output.file ↔ place ++ [name] = above ++ [last] ++ [compiler.output.filename] := by
    rw [path, stands.file piece]
    exact ⟨pathOf_injective (fun other there => isPiece_of_isName (proper other there))
      (isPiece_concat stands.proper piece), fun same => by rw [same]⟩
  rw [World.files, path] at read
  rw [same, parts, World.files, path]
  exact replaced.readText_iff proper direct read

/-- A bundle is emitted where there is room for the output at the end of a way. -/
theorem emit_of_roomy {n : Nat} (same : before.Same world) (valid : graph.validate = .ok ())
    (allowed : compiler.output.check compiler.config.root = .ok ()) (stands : compiler.output.Stands above last)
    (linkless : world.tree.Linkless) (grounded : world.tree.Grounded) (way : world.tree.HasWay above)
    (roomy : compiler.output.Roomy above last world.tree n) (clear : Output.Clear above last world.tree) :
    ((compiler.output.emit graph compiler.config.root : Session _).run before).1 = .ok compiler.output.file := by
  obtain ⟨line, ok_iff⟩ := Output.emit_ok_iff compiler.output graph compiler.config.root before
  have tree : (before.told line).tree = world.tree := same.1
  refine (ok_iff _).mpr ⟨allowed, valid, rfl, ?_⟩
  refine (Output.write_ok_iff_roomy stands (Output.check_eq_ok allowed).1 ?_ ?_ ?_).mpr ?_
  · exact tree ▸ linkless.linkFree above
  · exact tree ▸ grounded
  · exact tree ▸ linkless.at?_ne
  · rw [tree]
    exact ⟨_, createDirs_standing stands.isName_above way roomy.place.above, way, ⟨n, roomy⟩, clear⟩

/-- A run succeeds where there is a graph, and room for the output at the end of a way. -/
theorem run_of_roomy {n : Nat} (quiet : compiler.hooks.Quiet)
    (steady : compiler.hooks.Steady) (begun : ∃ w, ((compiler.hooks.call compiler.beginning).run w).1 = .ok ())
    (found : (compiler.graph.run world).1 = .ok graph) (valid : graph.validate = .ok ())
    (allowed : compiler.output.check compiler.config.root = .ok ()) (stands : compiler.output.Stands above last)
    (linkless : world.tree.Linkless) (grounded : world.tree.Grounded) (way : world.tree.HasWay above)
    (roomy : compiler.output.Roomy above last world.tree n) (clear : Output.Clear above last world.tree)
    (ended : ∃ w, ((compiler.hooks.call (ending ⟨graph.entry, graph.size, compiler.output.file⟩)).run w).1 = .ok ()) :
    (compiler.run.run world).1 = .ok ⟨graph.entry, graph.size, compiler.output.file⟩ :=
  run_of quiet steady begun found
    (fun _ same => emit_of_roomy same valid allowed stands linkless grounded way roomy clear) ended

/-- A project with one module. -/
def sources : World where
  tree := ⟨[(["p"], .directory), (["p", "src"], .directory), (["p", "src", "a.js"], .file (.text "f()"))]⟩
  current := none

/-- The compiler of the project that writes into one of its directories. -/
def into (directory : String) : Compiler Session where
  config := { root := ⟨"/p"⟩, entry := "src/a.js", output := { path := directory } }
  rules := []
  hooks := {}

theorem quiet_into (directory : String) : (into directory).hooks.Quiet := fun _ member => by cases member

theorem steady_into (directory : String) : (into directory).hooks.Steady := fun _ member => by cases member

theorem sources_grounded : sources.tree.Grounded := grounded_of_entries (by decide)

theorem sources_linkless : sources.tree.Linkless := by
  intro entry member target
  simp only [sources, List.mem_cons, List.not_mem_nil, or_false] at member
  rcases member with rfl | rfl | rfl <;> simp

/-- The module of the project, as it is built. -/
def sourced : ModuleGraph := ⟨⟨"./src/a.js"⟩, [⟨⟨"./src/a.js"⟩, ⟨"/p/src/a.js"⟩, "f();\n", []⟩]⟩

theorem sources_graph (directory : String) : ((into directory).graph.run sources).1 = .ok sourced := by
  have same : (into directory).graph = (into "").graph := rfl
  rw [same]
  exact eq_ok_of_toOption (by decide +kernel)

theorem into_ok {directory : String} (named : IsName directory)
    (place : (into directory).output.directory = pathOf (["p"] ++ [directory])) (fits : Fits (["p"] ++ [directory]))
    (apart : directory ≠ Output.stagingName ++ freshEnd 0) (clear : Output.Clear ["p"] directory sources.tree) :
    ((into directory).run.run sources).1 = .ok ⟨⟨"./src/a.js"⟩, 1, (into directory).output.file⟩ := by
  have filename : (into directory).output.filename = "main.js" := rfl
  have proper : ∀ name ∈ ["p"] ++ [directory], IsName name :=
    isName_concat (by simp [IsName, IsSegment]) named
  have stands : (into directory).output.Stands ["p"] directory := Output.stands_of_directory place proper
  have outside : ¬ ["p"] ++ [directory] <+: (Path.mk "/p").normalize.parts := by
    have root : (Path.mk "/p").normalize.parts = ["p"] := rfl
    exact fun front => absurd (root ▸ front.length_le) (by simp)
  have allowed : (into directory).output.check (into directory).config.root = .ok () :=
    Output.check_ok (by simp [filename]) (by simp [filename]) stands outside
  have roomy : (into directory).output.Roomy ["p"] directory sources.tree 0 := by
    refine ⟨.zero (by decide) (by decide), apart, ?_, ?_, fits⟩
    · simp [filename, IsName, IsSegment]
    · rw [filename]
      decide
  have way : sources.tree.HasWay ["p"] := sources_grounded.hasWay rfl
  exact run_of_roomy (quiet_into directory) (steady_into directory) ⟨sources, rfl⟩ (sources_graph directory) rfl allowed
    stands sources_linkless sources_grounded way roomy clear ⟨sources, rfl⟩

theorem into_dist : ((into "dist").run.run sources).1 = .ok ⟨⟨"./src/a.js"⟩, 1, ⟨"/p/dist/main.js"⟩⟩ :=
  into_ok (by simp [IsName, IsSegment]) rfl (by decide) (by decide) fun stands => absurd (by decide) stands

theorem run_keeps_source_dist : ∃ graph, ((into "dist").graph.run sources).1 = .ok graph ∧ graph.modules ≠ [] ∧
    ∀ built ∈ graph.modules, ∃ text, sources.files built.path = .ok text ∧
      ((into "dist").run.run sources).2.files built.path = .ok text := by
  have place : (into "dist").output.directory.parts = ["p", "dist"] := rfl
  have absolute : (into "dist").config.root.isAbsolute = true := rfl
  obtain ⟨graph, found, keeps⟩ := run_keeps_source_iff absolute (quiet_into "dist") sources_grounded
    (sources_linkless.linkFree _) into_dist
  obtain rfl : graph = sourced := Except.ok.inj (found.symm.trans (sources_graph "dist"))
  refine ⟨sourced, found, by simp [sourced], fun built member => ?_⟩
  obtain ⟨text, read, kept⟩ := keeps built member (sources_linkless.linkFree _)
  obtain rfl := List.mem_singleton.mp member
  refine ⟨text, read, kept.mpr (.inl ?_)⟩
  rw [place]
  decide

/-- A run that writes into the directory of its sources succeeds, and they are gone. -/
theorem run_loses_source : ((into "src").run.run sources).1 = .ok ⟨⟨"./src/a.js"⟩, 1, ⟨"/p/src/main.js"⟩⟩ ∧
    (∃ graph, ((into "src").graph.run sources).1 = .ok graph ∧ ∃ built ∈ graph.modules, built.path = ⟨"/p/src/a.js"⟩) ∧
    sources.files ⟨"/p/src/a.js"⟩ = .ok "f()" ∧
    ((into "src").run.run sources).2.files ⟨"/p/src/a.js"⟩ = .error .notFound := by
  have clear : Output.Clear ["p"] "src" sources.tree := fun _ => ⟨0, .zero (by decide) (by decide), by decide⟩
  have done : ((into "src").run.run sources).1 = .ok ⟨⟨"./src/a.js"⟩, 1, ⟨"/p/src/main.js"⟩⟩ :=
    into_ok (by simp [IsName, IsSegment]) rfl (by decide) (by decide) clear
  refine ⟨done, ⟨sourced, sources_graph "src", _, .head _, rfl⟩, rfl, ?_⟩
  have absolute : (into "src").config.root.isAbsolute = true := rfl
  have place : (into "src").output.directory.parts = ["p", "src"] := rfl
  obtain ⟨_, _, _, ran, _⟩ := run_ok (quiet_into "src") done
  obtain ⟨_, replaced⟩ := ran.replaced place absolute sources_grounded (sources_linkless.linkFree ["p"])
  generalize ((into "src").run.run sources).2 = once at replaced ⊢
  have gone := replaced.holds.2.2 ["a.js"] (by simp) (by decide)
  have way := replaced.hasWay_above.append replaced.holds.1
  have path : (⟨"/p/src/a.js"⟩ : Path) = pathOf (["p"] ++ ["src"] ++ ["a.js"]) := rfl
  rw [World.files, path]
  exact readText_free (by simp [IsName, IsSegment]) way (by decide) gone

end Compiler

end Bundler
