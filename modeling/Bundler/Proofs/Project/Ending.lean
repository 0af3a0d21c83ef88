import Bundler.Proofs.Host.FileTree
import Bundler.Proofs.Module.Id
import Bundler.Proofs.Project.Graph
import Bundler.Proofs.Script.Require
import Bundler.Proofs.Search.Ending
import Mathlib.Data.Finset.Prod

/-!
Whether a build comes to an end. Files are finitely many, but ids are not: an id may climb beyond the root of
the file system, where its file stays the same. A build ends exactly if it never meets one file again, while the
file is active, under an id that climbs so far.
-/

namespace Bundler.Project

open Relation Search

variable {project : Project} {world : World} {entry : Path} {id next : ModuleId} {built : Module}

theorem text_of_answer (answered : (project.catalogue world).answer id = .ok built) :
    ∃ text, world.files (id.toPath project.root) = .ok text := by
  rw [catalogue_answer, answerIn] at answered
  cases read : world.files (id.toPath project.root) with
  | error e =>
    rw [read] at answered
    cases answered
  | ok text => exact ⟨text, rfl⟩

/-- What a module requires depends on its file, and on its id for what the specifiers mean. -/
theorem dependencies_of_file (project : Project) (world : World) (file : Path) :
    ∃ specifiers : Option (List String), ∀ id : ModuleId, id.toPath project.root = file →
      ((project.catalogue world).answer id).toOption.map Module.dependencies =
        specifiers.map (·.map fun specifier => .resolve specifier id.parentDir project.extension) := by
  cases source : Rule.sourceOf project.rules file (world.files file) with
  | error e =>
    refine ⟨none, fun id same => ?_⟩
    rw [catalogue_answer, answerIn, same, source]
    rfl
  | ok text =>
    obtain ⟨specifiers, rewrites⟩ := rewrite_dependencies project.extension text
    refine ⟨specifiers, fun id same => ?_⟩
    rw [catalogue_answer, answerIn, same, source, ← rewrites id, moduleOf]
    generalize rewrite project.extension id text = rewriting
    cases rewriting.result <;> rfl

/-- What a module requires is what some specifier means in it. -/
theorem requires_resolve (edge : (project.catalogue world).Requires id next) :
    ∃ specifier, next = .resolve specifier id.parentDir project.extension := by
  obtain ⟨built, answered, member⟩ := edge
  obtain ⟨specifiers, means⟩ := dependencies_of_file project world (id.toPath project.root)
  have same := means id rfl
  rw [answered] at same
  cases specifiers with
  | none => cases same
  | some specifiers =>
    have dependencies : built.dependencies =
        specifiers.map fun specifier => .resolve specifier id.parentDir project.extension := Option.some.inj same
    rw [dependencies] at member
    obtain ⟨specifier, _, rfl⟩ := List.mem_map.mp member
    exact ⟨specifier, rfl⟩

theorem canonical_reaches (named : ModuleId.fromPath entry project.root = .ok id)
    (path : (project.catalogue world).Reaches id next) : next.Canonical := by
  induction path with
  | refl => exact ModuleId.canonical_fromPath named
  | tail _ edge _ =>
    obtain ⟨specifier, rfl⟩ := requires_resolve edge
    exact ModuleId.canonical_resolve ..

/-- A module that can be built has its file at one of the places in use. -/
theorem place_of_answer (absolute : project.root.isAbsolute = true) (linkless : world.tree.Linkless)
    (canonical : id.Canonical) (answered : (project.catalogue world).answer id = .ok built) :
    (id.toPath project.root).parts ≠ [] ∧ (id.toPath project.root).parts ∈ world.tree.entries.map (·.1) := by
  obtain ⟨text, read⟩ := text_of_answer answered
  obtain ⟨parts, proper, same⟩ := canonical.toPath_eq absolute
  refine FileTree.readText_place linkless ?_ ?_ read
  · rw [same]
    exact Path.isAbsolute_ofParts parts
  · rw [same, Path.parts_ofParts fun name member => (proper name member).1]
    exact ModuleId.up_not_mem proper

/-- Whether an id climbs to the root of the file system, or beyond. -/
def High (project : Project) (id : ModuleId) : Prop := id.Canonical ∧ project.root.depth ≤ id.climb

/-- The root of the file system is not a module. -/
theorem names_of_answer (absolute : project.root.isAbsolute = true) (linkless : world.tree.Linkless) {ups : Nat}
    {names : List String} (proper : ∀ name ∈ names, Path.IsName name) (high : project.root.depth ≤ ups)
    (answered : (project.catalogue world).answer (.climbing ups names) = .ok built) : names ≠ [] := by
  rintro rfl
  have below := (place_of_answer absolute linkless ⟨ups, [], proper, rfl⟩ answered).1
  rw [ModuleId.toPath_high absolute proper high, Path.parts_ofParts (by simp)] at below
  exact below rfl

theorem High.requires (absolute : project.root.isAbsolute = true) (linkless : world.tree.Linkless)
    (high : project.High id) (edge : (project.catalogue world).Requires id next) :
    project.High next ∧ id.climb ≤ next.climb := by
  obtain ⟨⟨ups, names, proper, rfl⟩, above⟩ := high
  rw [ModuleId.climb_climbing proper] at above ⊢
  obtain ⟨specifier, rfl⟩ := requires_resolve edge
  obtain ⟨built, answered, _⟩ := edge
  have some := names_of_answer absolute linkless proper above answered
  obtain ⟨more, below, proper', means⟩ := ModuleId.resolve_climbing specifier project.extension proper some
  rw [means, High, ModuleId.climb_climbing proper']
  exact ⟨⟨⟨ups + more, below, proper', rfl⟩, by omega⟩, by omega⟩

/-- Beyond the root of the file system all modules stay what they are when their ids are raised. -/
theorem lifts (absolute : project.root.isAbsolute = true) (linkless : world.tree.Linkless) (more : Nat) :
    Lifts (project.catalogue world) project.High (.raise more) where
  requires high edge := (high.requires absolute linkless edge).1
  stays := by
    rintro id ⟨canonical, above⟩
    obtain ⟨climbs, canonical'⟩ := ModuleId.climb_raise canonical more
    exact ⟨canonical', by omega⟩
  answer := by
    rintro id ⟨⟨ups, names, proper, rfl⟩, above⟩
    rw [ModuleId.climb_climbing proper] at above
    have file : ((ModuleId.climbing ups names).raise more).toPath project.root =
        (ModuleId.climbing ups names).toPath project.root := by
      rw [ModuleId.raise_climbing more proper, ModuleId.toPath_high absolute proper above,
        ModuleId.toPath_high absolute proper (by omega)]
    obtain ⟨specifiers, means⟩ := dependencies_of_file project world ((ModuleId.climbing ups names).toPath project.root)
    rw [means (.raise more (.climbing ups names)) file, means (.climbing ups names) rfl]
    by_cases none : names = []
    · have unbuilt : specifiers = Option.none := by
        cases answered : (project.catalogue world).answer (.climbing ups names) with
        | ok built => exact absurd none (names_of_answer absolute linkless proper above answered)
        | error e =>
          have same := means (.climbing ups names) rfl
          rw [answered] at same
          exact Option.map_eq_none_iff.mp same.symm
      rw [unbuilt]
      rfl
    · have each (specifier : String) :
          ModuleId.resolve specifier ((ModuleId.climbing ups names).raise more).parentDir project.extension =
            (ModuleId.resolve specifier (ModuleId.climbing ups names).parentDir project.extension).raise more := by
        obtain ⟨up, below, proper', means'⟩ := ModuleId.resolve_climbing specifier project.extension proper none
        rw [ModuleId.raise_climbing more proper, means', means', ModuleId.raise_climbing more proper', Nat.add_assoc]
      cases specifiers with
      | none => rfl
      | some specifiers => simp only [Option.map_some, List.map_map, Function.comp_def, each]

theorem raise_iterate (canonical : id.Canonical) (more times : Nat) :
    ((ModuleId.raise more)^[times] id).climb = times * more + id.climb ∧ ((ModuleId.raise more)^[times] id).Canonical := by
  induction times with
  | zero => exact ⟨by simp, canonical⟩
  | succ times ih =>
    rw [Function.iterate_succ_apply']
    obtain ⟨climbs, canonical'⟩ := ModuleId.climb_raise ih.2 more
    exact ⟨by rw [climbs, ih.1, Nat.succ_mul]; omega, canonical'⟩

theorem raise_injective (canonical : id.Canonical) {more : Nat} (some : 0 < more) :
    Function.Injective fun times => (ModuleId.raise more)^[times] id := by
  intro left right same
  have levels := congrArg ModuleId.climb same
  simp only [(raise_iterate canonical more _).1] at levels
  exact Nat.eq_of_mul_eq_mul_right some (by omega)

theorem High.climb_le (absolute : project.root.isAbsolute = true) (linkless : world.tree.Linkless)
    (high : project.High id) (path : TransGen (project.catalogue world).Requires id next) : id.climb ≤ next.climb := by
  have all : project.High next ∧ id.climb ≤ next.climb := by
    induction path with
    | single edge => exact high.requires absolute linkless edge
    | tail _ edge ih =>
      obtain ⟨high', level⟩ := ih.1.requires absolute linkless edge
      exact ⟨high', Nat.le_trans ih.2 level⟩
  exact all.2

/-- A search that meets a file beyond the root of the file system again, under another id, never ends. -/
theorem endless_of_within (absolute : project.root.isAbsolute = true) (linkless : world.tree.Linkless)
    {first one other : ModuleId} {outer : List ModuleId} {later : List Visit}
    (within : Within (project.catalogue world) first other outer later) (member : one ∈ outer) (high : project.High one)
    (canonical : other.Canonical) (same : one.toPath project.root = other.toPath project.root) (apart : one ≠ other) :
    ¬ ∃ result, Yields (project.catalogue world) (.start first) result := by
  have level := high.climb_le absolute linkless (within.requires one member)
  have raised := high.1.eq_raise canonical absolute high.2 level same
  have some : 0 < other.climb - one.climb := by
    have differ : one.climb ≠ other.climb := fun equal => apart (high.1.eq_of_toPath canonical absolute equal same)
    omega
  rw [raised] at within
  exact (lifts absolute linkless _).endless high (raise_injective high.1 some) within member

/-- Two ids of one file that climb to the root of the file system or beyond it, both active. -/
def Repeats (project : Project) (search : Search) : Prop :=
  ∃ one ∈ search.active, ∃ other ∈ search.active, one ≠ other ∧ project.root.depth ≤ one.climb ∧
    project.root.depth ≤ other.climb ∧ one.toPath project.root = other.toPath project.root

theorem endless_of_repeats (absolute : project.root.isAbsolute = true) (linkless : world.tree.Linkless)
    (named : ModuleId.fromPath entry project.root = .ok id) {search : Search}
    (path : Steps (project.catalogue world) (.start id) search) (repeats : project.Repeats search) :
    ¬ ∃ result, Yields (project.catalogue world) (.start id) result := by
  obtain ⟨one, member, other, member', apart, above, above', same⟩ := repeats
  have held := Held.of_steps path
  have canonical {active : ModuleId} (there : active ∈ search.active) : active.Canonical :=
    canonical_reaches named (held.reached active (held.active_stored active there))
  have shape := held.shape
  obtain ⟨graph, active, pending⟩ := search
  cases shape with
  | begins => cases member
  | finished => cases member
  | works within =>
    rcases within.order member member' apart with ⟨_, _, inner, outside⟩ | ⟨_, _, inner, outside⟩
    · exact endless_of_within absolute linkless inner outside ⟨canonical member, above⟩ (canonical member') same apart
    · exact endless_of_within absolute linkless inner outside ⟨canonical member', above'⟩ (canonical member)
        same.symm apart.symm

/-- The place of an id's file, and how far the id climbs, where the root of the file system is as far as any. -/
def spot (project : Project) (id : ModuleId) : Nat × Place :=
  (min id.climb project.root.depth, (id.toPath project.root).parts)

/-- The spot tells ids apart, unless they climb to the root of the file system or beyond. -/
theorem high_of_spot {one other : ModuleId} (absolute : project.root.isAbsolute = true) (canonical : one.Canonical)
    (canonical' : other.Canonical) (same : project.spot one = project.spot other) (apart : one ≠ other) :
    project.root.depth ≤ one.climb ∧ project.root.depth ≤ other.climb ∧
      one.toPath project.root = other.toPath project.root := by
  obtain ⟨level, parts⟩ := Prod.mk.inj same
  have files : one.toPath project.root = other.toPath project.root := by
    obtain ⟨names, proper, file⟩ := canonical.toPath_eq absolute
    obtain ⟨names', proper', file'⟩ := canonical'.toPath_eq absolute
    rw [file, file', Path.parts_ofParts fun name there => (proper name there).1,
      Path.parts_ofParts fun name there => (proper' name there).1] at parts
    rw [file, file', parts]
  have differ : one.climb ≠ other.climb := fun equal =>
    apart (canonical.eq_of_toPath canonical' absolute equal files)
  exact ⟨by omega, by omega, files⟩

/-- Where no file beyond the root of the file system is active under two ids, no more modules are active than
there are files, as often as there are directories above the project. -/
theorem active_length_le (absolute : project.root.isAbsolute = true) (linkless : world.tree.Linkless)
    (named : ModuleId.fromPath entry project.root = .ok id) {search : Search}
    (path : Steps (project.catalogue world) (.start id) search) (once : ¬ project.Repeats search) :
    search.active.length ≤ (project.root.depth + 1) * (world.tree.entries.map (·.1)).toFinset.card := by
  have held := Held.of_steps path
  have canonical {one : ModuleId} (there : one ∈ search.active) : one.Canonical :=
    canonical_reaches named (held.reached one (held.active_stored one there))
  have maps : ∀ one ∈ search.active.toFinset,
      project.spot one ∈ Finset.range (project.root.depth + 1) ×ˢ (world.tree.entries.map (·.1)).toFinset := by
    intro one member
    rw [List.mem_toFinset] at member
    obtain ⟨built, answered⟩ := held.shape.built one member
    have place := (place_of_answer absolute linkless (canonical member) answered).2
    simp only [spot, Finset.mem_product, Finset.mem_range, List.mem_toFinset]
    exact ⟨by omega, place⟩
  have apart : ∀ one ∈ search.active.toFinset, ∀ other ∈ search.active.toFinset,
      project.spot one = project.spot other → one = other := by
    intro one member other member' same
    rw [List.mem_toFinset] at member member'
    by_contra differ
    obtain ⟨above, above', files⟩ := high_of_spot absolute (canonical member) (canonical member') same differ
    exact once ⟨one, member, other, member', differ, above, above', files⟩
  have count := Finset.card_le_card_of_injOn project.spot maps fun one there other there' => apart one there other there'
  rwa [List.toFinset_card_of_nodup held.unrepeated, Finset.card_product, Finset.card_range] at count

theorem graphWithin_ends (named : ModuleId.fromPath entry project.root = .ok id) :
    (∃ steps, ((project.graphWithin steps entry : Session _).run world).1 ≠ .error .endless) ↔
      ∃ result, Yields (project.catalogue world) (.start id) result := by
  constructor
  · rintro ⟨steps, ended⟩
    obtain ⟨v, kept, runs⟩ := graphWithin_run project (Session.stable world) (Session.kept world []) named
    rcases ran : (Search.run (m := Session) project.builder steps (.start id)).run v with ⟨_ | result, u⟩
    · rw [runs, ran] at ended
      exact absurd rfl ended
    · have found : ((project.graphWithin steps entry : Session _).run world).1 = outcome (some result) := by
        rw [runs, ran]
        rfl
      exact ⟨result, (graphWithin_iff named).mp ⟨steps, found⟩⟩
  · rintro ⟨result, yields⟩
    obtain ⟨steps, found⟩ := (graphWithin_iff named).mpr yields
    refine ⟨steps, ?_⟩
    rw [found]
    cases result <;> simp [outcome]

/-- In a tree without symbolic links, a build comes to an end exactly if no file beyond the root of the file
system is ever active under two ids. -/
theorem graphWithin_ends_iff (absolute : project.root.isAbsolute = true) (linkless : world.tree.Linkless)
    (named : ModuleId.fromPath entry project.root = .ok id) :
    (∃ steps, ((project.graphWithin steps entry : Session _).run world).1 ≠ .error .endless) ↔
      ∀ search, Steps (project.catalogue world) (.start id) search → ¬ project.Repeats search := by
  rw [graphWithin_ends named]
  constructor
  · exact fun ends search path repeats => endless_of_repeats absolute linkless named path repeats ends
  · exact fun once => yields_of_bounded fun search path =>
      active_length_le absolute linkless named path (once search path)

theorem linkless_ofTexts (texts : List (String × String)) : (World.ofTexts texts).tree.Linkless := by
  intro entry member target
  simp only [World.ofTexts, List.mem_cons, List.mem_map] at member
  rcases member with rfl | ⟨_, _, rfl⟩ <;> simp

theorem loop_ends : plain.root.isAbsolute = true ∧ loop.tree.Linkless ∧
    ModuleId.fromPath ⟨"/p/a.js"⟩ plain.root = .ok ⟨"./a.js"⟩ ∧
    ∀ search, Steps (plain.catalogue loop) (.start ⟨"./a.js"⟩) search → ¬ plain.Repeats search := by
  have absolute : plain.root.isAbsolute = true := by decide +kernel
  have named : ModuleId.fromPath ⟨"/p/a.js"⟩ plain.root = .ok ⟨"./a.js"⟩ := by decide +kernel
  have ended : ((plain.graphWithin 9 ⟨"/p/a.js"⟩ : Session _).run loop).1 ≠ .error .endless := by decide +kernel
  exact ⟨absolute, linkless_ofTexts _, named, (graphWithin_ends_iff absolute (linkless_ofTexts _) named).mp ⟨9, ended⟩⟩

/-- A module that requires itself by a path that climbs beyond the root of the file system. -/
def spiral : World := .ofTexts [("a.js", "require('../../p/a.js')")]

/-- Each time the module requires itself its id climbs further, so that no cycle is seen. -/
theorem spiral_repeats : ∃ search, Steps (plain.catalogue spiral) (.start ⟨"./a.js"⟩) search ∧ plain.Repeats search := by
  have first : (plain.catalogue spiral).answer ⟨"./a.js"⟩ =
      .ok ⟨⟨"./a.js"⟩, ⟨"/p/a.js"⟩, "__loader__(\"./../../p/a.js\");\n", [⟨"./../../p/a.js"⟩]⟩ := by decide +kernel
  have second : (plain.catalogue spiral).answer ⟨"./../../p/a.js"⟩ =
      .ok ⟨⟨"./../../p/a.js"⟩, ⟨"/p/a.js"⟩, "__loader__(\"./../../../p/a.js\");\n", [⟨"./../../../p/a.js"⟩]⟩ := by
    decide +kernel
  have third : (plain.catalogue spiral).answer ⟨"./../../../p/a.js"⟩ =
      .ok ⟨⟨"./../../../p/a.js"⟩, ⟨"/p/a.js"⟩, "__loader__(\"./../../../../p/a.js\");\n",
        [⟨"./../../../../p/a.js"⟩]⟩ := by decide +kernel
  refine ⟨_, .tail (.tail (.single (.adopt ?_ ?_ first)) (.adopt ?_ ?_ second)) (.adopt ?_ ?_ third), ?_⟩
  iterate 6 decide
  refine ⟨⟨"./../../../p/a.js"⟩, ?_, ⟨"./../../p/a.js"⟩, ?_, ?_⟩
  · decide
  · decide
  · decide +kernel

theorem spiral_endless :
    ¬ ∃ steps, ((plain.graphWithin steps ⟨"/p/a.js"⟩ : Session _).run spiral).1 ≠ .error .endless := by
  have named : ModuleId.fromPath ⟨"/p/a.js"⟩ plain.root = .ok ⟨"./a.js"⟩ := by decide +kernel
  have absolute : plain.root.isAbsolute = true := by decide +kernel
  obtain ⟨search, path, repeats⟩ := spiral_repeats
  rw [graphWithin_ends named]
  exact endless_of_repeats absolute (linkless_ofTexts _) named path repeats

end Bundler.Project
