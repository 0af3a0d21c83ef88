import Bundler.Proofs.Host.Calls
import Bundler.Proofs.Host.Trial

/-!
Work on a world that succeeds, part by part.
-/

namespace Bundler

/-- A world with one more line in the log. -/
def World.told (world : World) (line : LogLine) : World := { world with log := world.log ++ [line] }

@[simp] theorem World.told_tree (world : World) (line : LogLine) : (world.told line).tree = world.tree := rfl

@[simp] theorem World.told_current (world : World) (line : LogLine) : (world.told line).current = world.current := rfl

namespace Session

variable {ε ε' α β γ : Type} {world middle after : World} {a : α} {b : β}

/-- Whether work on a world succeeds with a value, and what it leaves then. -/
def Gives (work : Session (Except ε α)) (world : World) (a : α) (after : World) : Prop :=
  work.run world = (.ok a, after)

theorem not_gives_error {e : ε} : ¬ Gives (pure (.error e) : Session (Except ε α)) world a after := nofun

theorem gives_of_ok {work : Session (Except ε α)} (fine : (work.run world).1 = .ok a) :
    Gives work world a (work.run world).2 := Prod.ext fine rfl

theorem Gives.ok {work : Session (Except ε α)} (gives : Gives work world a after) : (work.run world).1 = .ok a :=
  congrArg Prod.fst gives

theorem Gives.left {work : Session (Except ε α)} (gives : Gives work world a after) : (work.run world).2 = after :=
  congrArg Prod.snd gives

theorem Gives.pure (a : α) (world : World) : Gives (Pure.pure (.ok a) : Session (Except ε α)) world a world := rfl

theorem ok_bind {work : Session (Except ε α)} {next : Except ε α → Session (Except ε' β)}
    (first : Gives work world a middle) (second : ((next (.ok a)).run middle).1 = .ok b) :
    ((work >>= next).run world).1 = .ok b := by
  rw [StateT.run_bind, first]
  exact second

theorem ok_then {work : Session γ} {next : γ → Session (Except ε β)}
    (second : ((next (work.run world).1).run (work.run world).2).1 = .ok b) : ((work >>= next).run world).1 = .ok b :=
  second

theorem Gives.bind {work : Session (Except ε α)} {next : Except ε α → Session (Except ε' β)}
    (first : Gives work world a middle) (second : Gives (next (.ok a)) middle b after) :
    Gives (work >>= next) world b after := by
  rw [Gives, StateT.run_bind, first]
  exact second

/-- Work that goes on only behind a success succeeds in two parts. -/
theorem gives_bind {work : Session (Except ε α)} {next : Except ε α → Session (Except ε' β)}
    (done : Gives (work >>= next) world b after) (fails : ∀ {e world b after}, ¬ Gives (next (.error e)) world b after) :
    ∃ a middle, Gives work world a middle ∧ Gives (next (.ok a)) middle b after := by
  rw [Gives, StateT.run_bind] at done
  rcases ran : work.run world with ⟨e | a, middle⟩
  · rw [ran] at done
    exact absurd done fails
  · rw [ran] at done
    exact ⟨a, middle, ran, done⟩

theorem run_log (line : LogLine) : (Host.log line : Session Unit).run world = ((), world.told line) := rfl

theorem gives_then {work : Session γ} {next : γ → Session (Except ε β)} :
    Gives (work >>= next) world b after ↔ Gives (next (work.run world).1) (work.run world).2 b after := Iff.rfl

theorem gives_log {line : LogLine} {rest : Unit → Session (Except ε β)} :
    Gives (Host.log line >>= rest) world b after ↔ Gives (rest ()) (world.told line) b after := Iff.rfl

section Calls

open FileTree Bundler.Path

variable {place : Place} {path path' : Path} {name start text : String} {tree : FileTree}

theorem gives_createDirs_iff : Gives (Host.createDirs path) world () after ↔
    world.tree.createDirs world.current path = (after.tree, .ok ()) ∧ after = { world with tree := after.tree } := by
  rw [Gives, run_createDirs, Prod.mk.injEq]
  constructor
  · rintro ⟨fine, rfl⟩
    exact ⟨Prod.ext rfl fine, rfl⟩
  · rintro ⟨made, same⟩
    rw [made, same]
    exact ⟨rfl, rfl⟩

theorem gives_createDirs (made : world.tree.createDirs world.current path = (tree, .ok ())) :
    ∃ after, Gives (Host.createDirs path) world () after ∧ after.tree = tree :=
  ⟨{ world with tree }, gives_createDirs_iff.mpr ⟨made, rfl⟩, rfl⟩

theorem gives_createFreshDir_iff (proper : ∀ other ∈ place, IsName other) (proper' : IsName start)
    (free : world.tree.LinkFree place) : Gives (Host.createFreshDir (pathOf place) start) world path after ↔
      world.tree.HasWay place ∧ ∃ n, world.tree.First place start n ∧ path = pathOf (place ++ [start ++ freshEnd n]) ∧
        after = { world with tree := world.tree.put (place ++ [start ++ freshEnd n]) .directory } := by
  have absolute : (pathOf place).isAbsolute = true := isAbsolute_ofParts place
  rw [Gives, run_createFreshDir absolute]
  constructor
  · intro gives
    rcases made : world.tree.makeFreshDir world.current (pathOf place) start with ⟨fresh, e | tree⟩
    · rw [made] at gives
      cases gives
    · rw [made] at gives
      cases gives
      obtain ⟨way, n, first, same, rfl⟩ := (makeFreshDir_eq_ok_iff proper proper' free).mp made
      exact ⟨way, n, first, same, rfl⟩
  · rintro ⟨way, n, first, rfl, rfl⟩
    rw [(makeFreshDir_eq_ok_iff proper proper' free).mpr ⟨way, n, first, rfl, rfl⟩]

theorem gives_createFreshDir {n : Nat} (proper : ∀ other ∈ place, IsName other) (proper' : IsName start)
    (way : world.tree.HasWay place) (first : world.tree.First place start n) :
    ∃ made, Gives (Host.createFreshDir (pathOf place) start) world (pathOf (place ++ [start ++ freshEnd n])) made ∧
      made.tree = world.tree.put (place ++ [start ++ freshEnd n]) .directory :=
  ⟨_, (gives_createFreshDir_iff proper proper' way.linkFree).mpr ⟨way, n, first, rfl, rfl⟩, rfl⟩

theorem gives_writeText_eq : Gives (Host.writeText path text) world () after ↔
    ∃ tree, world.tree.writeText world.current path text = .ok tree ∧ after = { world with tree } := by
  rw [Gives, run_writeText]
  constructor
  · intro gives
    cases wrote : world.tree.writeText world.current path text with
    | error e =>
      rw [wrote] at gives
      cases gives
    | ok tree =>
      rw [wrote] at gives
      cases gives
      exact ⟨tree, rfl, rfl⟩
  · rintro ⟨tree, wrote, rfl⟩
    rw [wrote]

theorem gives_writeText_iff (proper : ∀ other ∈ place, IsName other) (piece : IsPiece name)
    (free : world.tree.LinkFree place) (unused : world.tree.at? (place ++ [name]) = none) :
    Gives (Host.writeText (pathOf (place ++ [name])) text) world () after ↔
      IsName name ∧ Fits (place ++ [name]) ∧ world.tree.HasWay place ∧
        after = { world with tree := world.tree.put (place ++ [name]) (.file (.text text)) } := by
  rw [gives_writeText_eq]
  simp only [writeText_eq_ok_iff proper piece free unused]
  constructor
  · rintro ⟨_, ⟨named, fits, way, rfl⟩, rfl⟩
    exact ⟨named, fits, way, rfl⟩
  · rintro ⟨named, fits, way, rfl⟩
    exact ⟨_, ⟨named, fits, way, rfl⟩, rfl⟩

theorem gives_writeText (proper : ∀ other ∈ place ++ [name], IsName other) (fits : Fits (place ++ [name]))
    (way : world.tree.HasWay place) (unused : world.tree.at? (place ++ [name]) = none) (text : String) :
    ∃ after, Gives (Host.writeText (pathOf (place ++ [name])) text) world () after ∧
      after.tree = world.tree.put (place ++ [name]) (.file (.text text)) := by
  have named := proper name (by simp)
  exact ⟨_, (gives_writeText_iff (fun other member => proper other (List.mem_append_left _ member))
    (isPiece_of_isName named) way.linkFree unused).mpr ⟨named, fits, way, rfl⟩, rfl⟩

theorem gives_rename_iff : Gives (Host.rename path path') world () after ↔
    ∃ places, world.tree.route world.current path path' = .ok places ∧ after = world.move places.1 places.2 := by
  rw [Gives, run_rename]
  constructor
  · intro gives
    cases led : world.tree.route world.current path path' with
    | error e =>
      rw [led] at gives
      cases gives
    | ok places =>
      rw [led] at gives
      cases gives
      exact ⟨places, rfl, rfl⟩
  · rintro ⟨places, led, rfl⟩
    rw [led]

end Calls

end Session

/-- What work ensures when no call fails. -/
theorem Trial.Follows.gives {ε α : Type} {work : Trial (Except ε α)} {smooth : Session (Except ε α)} {world after : World}
    {a : α} {post : Except ε α → Tried → Prop} (follows : Follows work smooth)
    (ensures : Ensures work ⟨world, [], [], []⟩ post) (gives : smooth.Gives world a after) :
    ∃ moves, post (.ok a) ⟨after, [], [], moves⟩ := by
  obtain ⟨moves, runs⟩ := follows world [] []
  rw [gives] at runs
  rw [Ensures, runs] at ensures
  exact ⟨moves, ensures⟩

end Bundler
