import Bundler.Host.World
import Bundler.Proofs.Host.Operations

/-!
Work on files in a world where any call may fail. How the calls go is told in advance, one by one.
-/

namespace Bundler

namespace Session

variable {world : World} {place : Place} {path path' : Path} {start text : String}

theorem run_writeText : (Host.writeText path text : Session _).run world =
    match world.tree.writeText world.current path text with
    | .ok tree => (.ok (), { world with tree })
    | .error e => (.error e, world) := by
  cases wrote : world.tree.writeText world.current path text with
  | ok tree =>
    simp only [Host.writeText, update, StateT.run_bind, StateT.run_get, pure_bind, wrote]
    rfl
  | error e =>
    simp only [Host.writeText, update, StateT.run_bind, StateT.run_get, pure_bind, wrote]
    rfl

theorem run_discard {α : Type} (work : Session α) : (discard work).run world = ((), (work.run world).2) := rfl

theorem run_createDirs : (Host.createDirs path : Session _).run world =
    ((world.tree.createDirs world.current path).2,
      { world with tree := (world.tree.createDirs world.current path).1 }) := by
  simp only [Host.createDirs, StateT.run_bind, StateT.run_get, pure_bind]
  rfl

/-- The absolute path of the directory that new ones are made in. -/
def base? (current : Option Place) (parent : Path) : Option Path :=
  if parent.isAbsolute then some parent else current.map fun here => (FileTree.pathOf here).join parent.text

theorem run_createFreshDir_base :
    (Host.createFreshDir path start : Session _).run world = match base? world.current path with
      | none => (.error .notFound, world)
      | some base => match world.tree.makeFreshDir world.current base start with
        | (path, .ok tree) => (.ok path, { world with tree })
        | (path, .error e) => (.error (.other s!"{e.message} at path {Text.Debug.quote path.text}"), world) := by
  simp only [Host.createFreshDir, createFreshDir, StateT.run_bind, StateT.run_get, pure_bind, base?]
  generalize (if path.isAbsolute then some path else _) = base
  cases base with
  | none => rfl
  | some base =>
    dsimp only
    rcases world.tree.makeFreshDir world.current base start with ⟨path, e | tree⟩
    · rfl
    · rfl

theorem run_createFreshDir (absolute : path.isAbsolute = true) :
    (Host.createFreshDir path start : Session _).run world = match world.tree.makeFreshDir world.current path start with
    | (path, .ok tree) => (.ok path, { world with tree })
    | (path, .error e) => (.error (.other s!"{e.message} at path {Text.Debug.quote path.text}"), world) := by
  rw [run_createFreshDir_base, base?, if_pos absolute]

theorem run_rename : (Host.rename path path' : Session _).run world =
    match world.tree.route world.current path path' with
    | .ok places => (.ok (), world.move places.1 places.2)
    | .error e => (.error e, world) := by
  cases led : world.tree.route world.current path path' with
  | ok places =>
    simp only [Host.rename, StateT.run_bind, StateT.run_get, pure_bind, led]
    rfl
  | error e =>
    simp only [Host.rename, StateT.run_bind, StateT.run_get, pure_bind, led]
    rfl

theorem run_removeTree (led : world.tree.locate world.current false path = .ok place) :
    (Host.removeTree path : Session _).run world = ((), world.remove place) := by
  simp only [Host.removeTree, StateT.run_modify, led]
  rfl

end Session

/-- How a call fails: the error, by how many directories one that makes them falls short, and what one that writes
leaves in the file. -/
structure Fault where
  error : FileError
  short : Nat
  left : Option Content

/-- A move that was asked for, and how it went. -/
structure Move where
  source : Path
  target : Path
  result : Except FileError Unit

/-- A world, how the next calls go, the directories that should have been removed and were not, and the moves that were
asked for, in their order. -/
structure Tried where
  world : World
  faults : List (Option Fault)
  spared : List Path
  moves : List Move

/-- Work in a world where calls may fail. -/
abbrev Trial := StateM Tried

namespace FileTree

/-- The tree with a file that has not been written to its end. -/
def spill (tree : FileTree) (current : Option Place) (path : Path) (content : Content) : FileTree :=
  match tree.locate current true path with
  | .ok place => if tree.at? place = some .directory then tree else tree.put place (.file content)
  | .error _ => tree

open Bundler.Path in
/-- What is left is in the new file, or nowhere. -/
theorem spill_eq {tree : FileTree} {current : Option Place} {place : Place} {name : String}
    (proper : ∀ name ∈ place, IsName name) (piece : IsPiece name) (free : tree.LinkFree place)
    (unused : tree.at? (place ++ [name]) = none) (content : Content) :
    tree.spill current (pathOf (place ++ [name])) content = tree ∨
      tree.spill current (pathOf (place ++ [name])) content = tree.put (place ++ [name]) (.file content) := by
  unfold spill
  cases led : tree.locate current true (pathOf (place ++ [name])) with
  | error e => exact .inl rfl
  | ok found =>
    rcases locate_new proper piece free unused led with ⟨rfl, _⟩ | directory
    · exact .inr (by simp [unused])
    · exact .inl (by simp [directory])

end FileTree

namespace Trial

/-- How the next call goes. -/
def next : Trial (Option Fault) := fun tried =>
  (tried.faults.head?.join, { tried with faults := tried.faults.tail })

def lift {α : Type} (work : Session α) : Trial α := fun tried =>
  ((work.run tried.world).1, { tried with world := (work.run tried.world).2 })

/-- A call that may fail, and then leaves something behind. -/
def attempt {α : Type} (work : Session (Except FileError α)) (remains : Fault → Session Unit) :
    Trial (Except FileError α) := do
  match ← next with
  | none => lift work
  | some fault => do
    lift (remains fault)
    return .error fault.error

/-- A question that may be answered in the negative for want of an answer. -/
def ask (work : Session Bool) : Trial Bool := do
  match ← next with
  | none => lift work
  | some _ => return false

instance : Host Trial where
  readText path := attempt (Host.readText path) fun _ => pure ()
  isFile path := ask (Host.isFile path)
  isPresent path := ask (Host.isPresent path)
  canonical path := attempt (Host.canonical path) fun _ => pure ()
  currentDir := attempt Host.currentDir fun _ => pure ()
  createDirs path := attempt (Host.createDirs path) fun fault =>
    match (FileTree.lineage path path.parts.length)[fault.short]? with
    | some above => discard (Host.createDirs above)
    | none => pure ()
  createFreshDir parent start := attempt (Host.createFreshDir parent start) fun _ => pure ()
  writeText path text := attempt (Host.writeText path text) fun fault =>
    match fault.left with
    | some content => modify fun world => { world with tree := world.tree.spill world.current path content }
    | none => pure ()
  rename old new := do
    let result ← attempt (Host.rename old new) fun _ => pure ()
    modify fun tried => { tried with moves := tried.moves ++ [⟨old, new, result⟩] }
    return result
  removeTree path := do
    match ← next with
    | none => lift (Host.removeTree path)
    | some _ => modify fun tried => { tried with spared := path :: tried.spared }
  log line := lift (Host.log line)

variable {α β : Type} {work : Trial α} {go : α → Trial β} {before : Tried} {post mid : α → Tried → Prop}
  {post' : β → Tried → Prop}

/-- What holds of the value and the state that some work comes to. -/
def Ensures (work : Trial α) (before : Tried) (post : α → Tried → Prop) : Prop :=
  post (work.run before).1 (work.run before).2

namespace Ensures

theorem pure {a : α} (holds : post a before) : Ensures (Pure.pure a) before post := holds

theorem bind (first : Ensures work before mid) (second : ∀ a after, mid a after → Ensures (go a) after post') :
    Ensures (work >>= go) before post' :=
  second _ _ first

theorem mono (ensures : Ensures work before mid) (weaker : ∀ a after, mid a after → post a after) :
    Ensures work before post :=
  weaker _ _ ensures

theorem attempt {work : Session (Except FileError α)} {remains : Fault → Session Unit}
    {post : Except FileError α → Tried → Prop}
    (succeeds : ∀ faults,
      post (work.run before.world).1 ⟨(work.run before.world).2, faults, before.spared, before.moves⟩)
    (fails : ∀ fault faults,
      post (.error fault.error) ⟨((remains fault).run before.world).2, faults, before.spared, before.moves⟩) :
    Ensures (Trial.attempt work remains) before post := by
  obtain ⟨world, faults, spared, moves⟩ := before
  match faults with
  | [] => exact succeeds []
  | none :: faults => exact succeeds faults
  | some fault :: faults => exact fails fault faults

/-- A move is on record, however it went. -/
theorem rename {old new : Path} {post : Except FileError Unit → Tried → Prop}
    (ensures : Ensures (Trial.attempt (Host.rename old new) fun _ => Pure.pure ()) before fun result after =>
      post result { after with moves := after.moves ++ [⟨old, new, result⟩] }) :
    Ensures (Host.rename old new) before post := ensures

end Ensures

section Smooth

variable {smooth : Session α} {go' : α → Session β}

/-- Whether work does what other work does when no call fails. -/
def Follows (work : Trial α) (smooth : Session α) : Prop := ∀ world spared moves, ∃ moves',
  work.run ⟨world, [], spared, moves⟩ = ((smooth.run world).1, ⟨(smooth.run world).2, [], spared, moves'⟩)

namespace Follows

theorem pure (a : α) : Follows (Pure.pure a) (Pure.pure a) := fun _ _ _ => ⟨_, rfl⟩

theorem bind (first : Follows work smooth) (second : ∀ a, Follows (go a) (go' a)) :
    Follows (work >>= go) (smooth >>= go') := by
  intro world spared moves
  obtain ⟨moves', runs⟩ := first world spared moves
  rw [StateT.run_bind, StateT.run_bind, runs]
  exact second _ _ spared moves'

theorem attempt (smooth : Session (Except FileError α)) (remains : Fault → Session Unit) :
    Follows (Trial.attempt smooth remains) smooth := fun _ _ _ => ⟨_, rfl⟩

theorem rename (old new : Path) : Follows (Host.rename old new) (Host.rename old new) := fun _ _ _ => ⟨_, rfl⟩

end Follows

end Smooth

section Calls

open FileTree Bundler.Path

variable {place source target : Place} {name name' start text : String}

theorem isPresent_ensures (path : Path) : Ensures (Host.isPresent path) before fun _ after =>
    after.world.tree = before.world.tree ∧ after.spared = before.spared := by
  obtain ⟨world, faults, spared, moves⟩ := before
  match faults with
  | [] => exact ⟨rfl, rfl⟩
  | none :: faults => exact ⟨rfl, rfl⟩
  | some fault :: faults => exact ⟨rfl, rfl⟩

theorem log_ensures (line : LogLine) : Ensures (Host.log line) before fun _ after =>
    after.world.tree = before.world.tree ∧ after.spared = before.spared := ⟨rfl, rfl⟩

/-! Only moves are recorded as moves. -/

theorem isPresent_moves (path : Path) : Ensures (Host.isPresent path) before fun _ after =>
    after.moves = before.moves := by
  obtain ⟨world, faults, spared, moves⟩ := before
  match faults with
  | [] | none :: _ | some _ :: _ => exact rfl

theorem log_moves (line : LogLine) : Ensures (Host.log line) before fun _ after => after.moves = before.moves := rfl

theorem createDirs_moves (path : Path) : Ensures (Host.createDirs path) before fun _ after =>
    after.moves = before.moves := .attempt (fun _ => rfl) fun _ _ => rfl

theorem createFreshDir_moves (parent : Path) (start : String) : Ensures (Host.createFreshDir parent start) before
    fun _ after => after.moves = before.moves := .attempt (fun _ => rfl) fun _ _ => rfl

theorem writeText_moves (path : Path) (text : String) : Ensures (Host.writeText path text) before fun _ after =>
    after.moves = before.moves := .attempt (fun _ => rfl) fun _ _ => rfl

theorem removeTree_moves (path : Path) : Ensures (Host.removeTree path) before fun _ after =>
    after.moves = before.moves := by
  obtain ⟨world, faults, spared, moves⟩ := before
  match faults with
  | [] | none :: _ | some _ :: _ => exact rfl

theorem rename_moves (old new : Path) : Ensures (Host.rename old new) before fun result after =>
    after.moves = before.moves ++ [⟨old, new, result⟩] := .rename (.attempt (fun _ => rfl) fun _ _ => rfl)

theorem createDirs_ensures (proper : ∀ name ∈ place, IsName name) (free : before.world.tree.LinkFree place) :
    Ensures (Host.createDirs (pathOf place)) before fun _ after =>
      GrownTo place before.world.tree after.world.tree ∧ after.spared = before.spared := by
  refine .attempt (fun _ => ⟨?_, rfl⟩) fun fault _ => ⟨?_, rfl⟩
  · rw [Session.run_createDirs]
    exact createDirs_grown proper free
  split
  · next path reached =>
    obtain ⟨above, front, rfl⟩ := mem_lineage proper (List.mem_of_getElem? reached)
    rw [Session.run_discard, Session.run_createDirs]
    exact (createDirs_grown (fun name member => proper name (front.subset member)) (free.anti front)).mono front
  · exact .refl _ _

/-- What is known of the path of a new directory in the directory at `place`, and of its name. -/
structure IsFresh (place : Place) (start : String) (tree : FileTree) (path : Path) (name : String) : Prop where
  path : path = pathOf (place ++ [name])
  front : start.toList <+: name.toList
  proper : ∀ other ∈ place ++ [name], IsName other
  fits : Fits (place ++ [name])
  way : tree.HasWay place
  unused : tree.at? (place ++ [name]) = none

/-- A new directory is made under a name that starts as was asked for. -/
theorem run_createFreshDir_named (world : World) (proper : ∀ name ∈ place, IsName name) (proper' : IsName start) :
    ∃ name, start.toList <+: name.toList ∧ (∀ other ∈ place ++ [name], IsName other) ∧
      (Host.createFreshDir (pathOf place) start : Session _).run world =
        match world.tree.makeDir world.current (pathOf (place ++ [name])) with
        | .ok tree => (.ok (pathOf (place ++ [name])), { world with tree })
        | .error e =>
          (.error (.other s!"{e.message} at path {Text.Debug.quote (pathOf (place ++ [name])).text}"), world) := by
  obtain ⟨n, new, _⟩ := makeFreshDir_eq world.tree world.current proper proper'
  have absolute : (pathOf place).isAbsolute = true := isAbsolute_ofParts place
  have named := isName_append proper' (not_mem_freshEnd n)
  refine ⟨start ++ freshEnd n, by simp, isName_concat proper named, ?_⟩
  rw [Session.run_createFreshDir absolute, new]
  cases world.tree.makeDir world.current (pathOf (place ++ [start ++ freshEnd n])) with
  | ok tree => rfl
  | error e => rfl

theorem createFreshDir_ensures (proper : ∀ name ∈ place, IsName name) (proper' : IsName start)
    (free : before.world.tree.LinkFree place) :
    Ensures (Host.createFreshDir (pathOf place) start) before fun result after => after.spared = before.spared ∧
      match result with
      | .ok path => ∃ name, IsFresh place start before.world.tree path name ∧
        after.world.tree = before.world.tree.put (place ++ [name]) .directory
      | .error _ => after.world.tree = before.world.tree := by
  refine .attempt (fun _ => ⟨rfl, ?_⟩) fun _ _ => ⟨rfl, rfl⟩
  obtain ⟨name, front, proper'', runs⟩ := run_createFreshDir_named before.world proper proper'
  rw [runs]
  cases made : before.world.tree.makeDir before.world.current (pathOf (place ++ [name])) with
  | error e => rfl
  | ok tree =>
    obtain ⟨unused, fits, way, same⟩ := makeDir_eq_ok proper'' free made
    exact ⟨name, ⟨rfl, front, proper'', fits, way, unused⟩, same⟩

theorem createFreshDir_named (proper : ∀ name ∈ place, IsName name) (proper' : IsName start) :
    Ensures (Host.createFreshDir (pathOf place) start) before fun result after => after.moves = before.moves ∧
      ∀ path, result = .ok path → ∃ name, start.toList <+: name.toList ∧ (∀ other ∈ place ++ [name], IsName other) ∧
        path = pathOf (place ++ [name]) := by
  refine .attempt (fun _ => ⟨rfl, fun path made => ?_⟩) fun _ _ => ⟨rfl, nofun⟩
  obtain ⟨name, front, proper'', runs⟩ := run_createFreshDir_named before.world proper proper'
  refine ⟨name, front, proper'', ?_⟩
  rw [runs] at made
  split at made
  · exact (Except.ok.inj made).symm
  · cases made

theorem writeText_ensures (proper : ∀ name ∈ place, IsName name) (piece : IsPiece name)
    (free : before.world.tree.LinkFree place) (unused : before.world.tree.at? (place ++ [name]) = none) :
    Ensures (Host.writeText (pathOf (place ++ [name])) text) before fun result after => after.spared = before.spared ∧
      match result with
      | .ok () => before.world.tree.HasWay place ∧
        after.world.tree = before.world.tree.put (place ++ [name]) (.file (.text text))
      | .error _ => after.world.tree = before.world.tree ∨
        ∃ content, after.world.tree = before.world.tree.put (place ++ [name]) (.file content) := by
  refine .attempt (fun _ => ⟨rfl, ?_⟩) fun fault _ => ⟨rfl, ?_⟩
  · rw [Session.run_writeText]
    cases wrote : before.world.tree.writeText before.world.current (pathOf (place ++ [name])) text with
    | error e => exact .inl rfl
    | ok tree =>
      obtain ⟨_, _, way, same⟩ := (writeText_eq_ok_iff proper piece free unused).mp wrote
      exact ⟨way, same⟩
  · cases fault.left with
    | some content =>
      exact (spill_eq proper piece free unused content).imp_right fun spilled => ⟨content, spilled⟩
    | none => exact .inl rfl

theorem rename_ensures (proper : ∀ other ∈ source ++ [name], IsName other)
    (proper' : ∀ other ∈ target ++ [name'], IsName other) (free : before.world.tree.LinkFree source)
    (free' : before.world.tree.LinkFree target) (apart : source ++ [name] ≠ target ++ [name']) :
    Ensures (Host.rename (pathOf (source ++ [name])) (pathOf (target ++ [name']))) before fun result after =>
      after.spared = before.spared ∧
      match result with
      | .ok () => ¬ source ++ [name] <+: target ++ [name'] ∧ ¬ target ++ [name'] <+: source ++ [name] ∧
        after.world.tree = before.world.tree.move (source ++ [name]) (target ++ [name'])
      | .error _ => after.world.tree = before.world.tree := by
  refine .rename (.attempt (fun _ => ⟨rfl, ?_⟩) fun _ _ => ⟨rfl, rfl⟩)
  rw [Session.run_rename]
  cases led : before.world.tree.route before.world.current (pathOf (source ++ [name])) (pathOf (target ++ [name'])) with
  | error e => rfl
  | ok places =>
    obtain ⟨rfl, into, outOf⟩ := route_eq_ok proper proper' free free' led
    refine ⟨fun front => apart (into front), fun front => apart (outOf front), ?_⟩
    simp only [World.move, if_neg apart]

theorem removeTree_ensures (proper : ∀ other ∈ place ++ [name], IsName other) (fits : Fits (place ++ [name]))
    (way : before.world.tree.HasWay place) :
    Ensures (Host.removeTree (pathOf (place ++ [name]))) before fun _ after =>
      after.world.tree = before.world.tree.drop (place ++ [name]) ∧ after.spared = before.spared ∨
      after.world.tree = before.world.tree ∧ after.spared = pathOf (place ++ [name]) :: before.spared := by
  obtain ⟨world, faults, spared, moves⟩ := before
  have led : world.tree.locate world.current false (pathOf (place ++ [name])) = .ok (place ++ [name]) :=
    (locate_eq_ok_iff proper way.linkFree (by simp)).mpr ⟨rfl, fits, way⟩
  have removes : ((Host.removeTree (pathOf (place ++ [name])) : Session Unit).run world).2.tree =
      world.tree.drop (place ++ [name]) := by
    rw [Session.run_removeTree led]
    rfl
  match faults with
  | [] => exact .inl ⟨removes, rfl⟩
  | none :: faults => exact .inl ⟨removes, rfl⟩
  | some fault :: faults => exact .inr ⟨rfl, rfl⟩

end Calls

end Trial

end Bundler
