import Bundler.Host.World

/-!
Work that reads files and logs, on states that stay the same for it. A watched world keeps the paths
of the files that are read in it, so that theorems can speak of them.
-/

namespace Bundler

/-- A world, and the files that have been read in it. -/
structure Watched where
  world : World
  reads : List Path := []

/-- Work on a watched world. -/
abbrev Watch := StateM Watched

namespace Watch

/-- Work on the world that is watched. -/
def lift {α : Type} (work : Session α) : Watch α := fun watched =>
  ((work.run watched.world).1, { watched with world := (work.run watched.world).2 })

instance : Host Watch where
  readText path := do
    modify fun watched => { watched with reads := watched.reads ++ [path] }
    lift (Host.readText path)
  isFile path := lift (Host.isFile path)
  isPresent path := lift (Host.isPresent path)
  canonical path := lift (Host.canonical path)
  currentDir := lift Host.currentDir
  createDirs path := lift (Host.createDirs path)
  createFreshDir path start := lift (Host.createFreshDir path start)
  writeText path text := lift (Host.writeText path text)
  rename old new := lift (Host.rename old new)
  removeTree path := lift (Host.removeTree path)
  log line := lift (Host.log line)

end Watch

/-- A host on a state whose files stay the same while they are read. The state keeps what `keeps paths`
says of it once `paths` have been read. -/
structure Host.Stable {σ : Type} [Host (StateM σ)] (files : Path → Except FileError String)
    (keeps : List Path → σ → Prop) : Prop where
  read : ∀ {paths w} (path : Path), keeps paths w →
    ((Host.readText path : StateM σ (Except FileError String)).run w).1 = files path ∧
      keeps (paths ++ [path]) ((Host.readText path : StateM σ (Except FileError String)).run w).2
  log : ∀ {paths w} (line : LogLine), keeps paths w →
    keeps paths ((Host.log line : StateM σ Unit).run w).2

/-- Whether two worlds differ in their logs alone. -/
def World.Same (one other : World) : Prop := one.tree = other.tree ∧ one.current = other.current

/-- The texts of the files of a world. -/
def World.files (world : World) (path : Path) : Except FileError String :=
  world.tree.readText world.current path

/-- A world with a directory of texts, `/p`. -/
def World.ofTexts (texts : List (String × String)) : World where
  tree := ⟨(["p"], .directory) :: texts.map fun (name, text) => (["p", name], .file (.text text))⟩
  current := some ["p"]

theorem World.Same.files {one other : World} (same : one.Same other) : one.files = other.files := by
  unfold World.files
  rw [same.1, same.2]

/-- What work on a world leaves as it was. -/
def Session.Kept (world : World) (_ : List Path) (other : World) : Prop := other.Same world

/-- What work on a watched world leaves as it was, once some paths have been read. -/
def Watch.Kept (world : World) (paths : List Path) (watched : Watched) : Prop :=
  watched.world.Same world ∧ watched.reads = paths

theorem Session.kept (world : World) (paths : List Path) : Session.Kept world paths world := ⟨rfl, rfl⟩

theorem Watch.kept (world : World) (reads : List Path) : Watch.Kept world reads ⟨world, reads⟩ := ⟨⟨rfl, rfl⟩, rfl⟩

theorem Session.stable (world : World) : Host.Stable world.files (Session.Kept world) where
  read path same := ⟨congrFun (World.Same.files same) path, same⟩
  log _ same := same

theorem Watch.stable (world : World) : Host.Stable world.files (Watch.Kept world) where
  read path kept := ⟨congrFun kept.1.files path, kept.1, congrArg (· ++ [path]) kept.2⟩
  log _ kept := kept

namespace Host.Stable

variable {σ α : Type} [Host (StateM σ)] {files : Path → Except FileError String}
  {keeps : List Path → σ → Prop} {paths : List Path} {w : σ}

theorem log_all (stable : Host.Stable files keeps) (here : keeps paths w) (items : List α)
    (line : α → LogLine) :
    keeps paths ((items.forM fun item => (Host.log (line item) : StateM σ Unit)).run w).2 := by
  induction items generalizing w with
  | nil => exact here
  | cons item rest ih => exact ih (stable.log (line item) here)

end Host.Stable

end Bundler
