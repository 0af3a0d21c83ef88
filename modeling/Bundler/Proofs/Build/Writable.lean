import Bundler.Proofs.Build.Output
import Bundler.Proofs.Host.Gives

/-!
When a bundle can be written: there is room for the new output in a directory beside the old one, and for the old output
in another such directory.
-/

namespace Bundler.Output

open FileTree Bundler.Path Session

variable {output : Output} {above : Place} {last staging bundle : String} {tree tree' : FileTree} {world after : World}
  {holder : Option Path} {n : Nat}

/-- Whether the old output, if there is one, can be moved into a new directory beside it. -/
def Clear (above : Place) (last : String) (tree : FileTree) : Prop :=
  tree.at? (above ++ [last]) ≠ none → ∃ k, tree.First above previousName k ∧
    Fits (above ++ [previousName ++ freshEnd k] ++ [backupName])

theorem Clear.congr (same : tree'.at? (above ++ [last]) = tree.at? (above ++ [last]))
    (others : ∀ k, tree'.at? (above ++ [previousName ++ freshEnd k]) = tree.at? (above ++ [previousName ++ freshEnd k])) :
    Clear above last tree' ↔ Clear above last tree := by
  have first (k : Nat) : tree'.First above previousName k ↔ tree.First above previousName k := by
    constructor
    · exact fun first => ⟨fun m less => others m ▸ first.taken m less, first.fits, others k ▸ first.free⟩
    · exact fun first => ⟨fun m less => (others m).symm ▸ first.taken m less, first.fits, (others k).symm ▸ first.free⟩
  simp only [Clear, same, first]

/-- Whether there is room for a new output beside the old one, in a new directory with the name of a number. -/
structure Roomy (output : Output) (above : Place) (last : String) (tree : FileTree) (n : Nat) : Prop where
  first : tree.First above stagingName n
  apart : last ≠ stagingName ++ freshEnd n
  named : IsName output.filename
  fits : Fits (above ++ [stagingName ++ freshEnd n] ++ ["out"] ++ [output.filename])
  place : Fits (above ++ [last])

theorem isName_previous (k : Nat) : IsName (previousName ++ freshEnd k) :=
  isName_append isName_previousName (not_mem_freshEnd k)

theorem previous_ne_staging (k n : Nat) : previousName ++ freshEnd k ≠ stagingName ++ freshEnd n := by
  intro same
  have chars := congrArg (·.toList[9]?) same
  simp [previousName, stagingName] at chars

/-- The old output can be moved aside where the paths that are tried for it are short enough. -/
theorem clear_of_fits (fits : ∀ n, (∀ m < n, tree.at? (above ++ [previousName ++ freshEnd m]) ≠ none) →
    Fits (above ++ [previousName ++ freshEnd n] ++ [backupName])) : Clear above last tree := by
  intro _
  obtain ⟨n, first⟩ := exists_first fun n taken => (fits n taken).above
  exact ⟨n, first, fits n first.taken⟩

section Parts

/-- How the old output is moved aside where there is one. -/
theorem gives_moveAside_iff (present : (Host.isPresent output.directory : Session Bool).run world = (true, world)) :
    ∃ line, ∀ holder after, Gives output.moveAside world holder after ↔ ∃ path made,
      Gives (Host.createFreshDir output.parent previousName) (world.told line) path made ∧
      Gives (Host.rename output.directory (path.join backupName)) made () after ∧ holder = some path := by
  refine ⟨⟨.debug, .emitter, s!"Replacing existing output directory {output.directory}"⟩, fun holder after => ?_⟩
  unfold moveAside
  rw [gives_then, present]
  constructor
  · intro done
    have done := gives_log.mp (show Gives (Host.log _ >>= _) world holder after from done)
    obtain ⟨path, made, makes, done⟩ := gives_bind done not_gives_error
    obtain ⟨_, _, moves, done⟩ := gives_bind done fun gives => not_gives_error (gives_then.mp gives)
    cases done
    exact ⟨path, made, makes, moves, rfl⟩
  · rintro ⟨path, made, makes, moves, rfl⟩
    refine (show Gives (Host.log _ >>= _) world (some path) after from ?_)
    exact gives_log.mpr (.bind makes (.bind moves (.pure (some path) after)))

theorem gives_moveAside_none (absent : (Host.isPresent output.directory : Session Bool).run world = (false, world)) :
    Gives output.moveAside world none world := by
  unfold moveAside
  rw [gives_then, absent]
  exact .pure none world

/-- Moving the old output aside comes to nothing where there is none, and else to a move into a new directory. -/
theorem moveAside_cases (moves : Gives output.moveAside world holder after) :
    holder = none ∧ after = world ∧ world.tree.isPresent world.current output.directory = false ∨
      ∃ line path made, Gives (Host.createFreshDir output.parent previousName) (world.told line) path made ∧
        Gives (Host.rename output.directory (path.join backupName)) made () after ∧ holder = some path := by
  have asks : (Host.isPresent output.directory : Session Bool).run world =
      (world.tree.isPresent world.current output.directory, world) := rfl
  cases present : world.tree.isPresent world.current output.directory with
  | false =>
    rw [present] at asks
    cases (gives_moveAside_none asks).symm.trans moves
    exact .inl ⟨rfl, rfl, rfl⟩
  | true =>
    rw [present] at asks
    obtain ⟨line, parts⟩ := gives_moveAside_iff asks
    obtain ⟨path, made, makes, shifts, same⟩ := (parts _ _).mp moves
    exact .inr ⟨line, path, made, makes, shifts, same⟩

theorem swap_ok_iff {staged : Path} : ((output.swap staged : Session _).run world).1 = .ok () ↔
    ∃ holder aside, Gives output.moveAside world holder aside ∧
      ((Host.rename staged output.directory : Session _).run aside).1 = .ok () := by
  constructor
  · intro fine
    have done := gives_of_ok fine
    unfold swap at done
    obtain ⟨holder, aside, moves, done⟩ := gives_bind done not_gives_error
    obtain ⟨_, _, installs, _⟩ := gives_bind done fun {e _ _ _} gives => by
      cases holder with
      | none => exact not_gives_error gives
      | some path => exact not_gives_error (gives_then.mp gives)
    exact ⟨holder, aside, moves, installs.ok⟩
  · rintro ⟨holder, aside, moves, installs⟩
    exact ok_bind moves (ok_bind (gives_of_ok installs) (ok_then rfl))

theorem stage_ok_iff {path : Path} : ((output.stage path bundle : Session _).run world).1 = .ok () ↔
    ∃ made wrote, Gives (Host.createDirs (path.join "out")) world () made ∧
      Gives (Host.writeText ((path.join "out").join output.filename) bundle) made () wrote ∧
      ((output.swap (path.join "out") : Session _).run wrote).1 = .ok () := by
  constructor
  · intro fine
    have done := gives_of_ok fine
    unfold stage at done
    obtain ⟨_, made, makes, done⟩ := gives_bind done not_gives_error
    obtain ⟨_, wrote, writes, done⟩ := gives_bind done not_gives_error
    exact ⟨made, wrote, makes, writes, done.ok⟩
  · rintro ⟨made, wrote, makes, writes, swaps⟩
    exact ok_bind makes (ok_bind writes swaps)

theorem write_ok_iff : ((output.write bundle : Session _).run world).1 = .ok () ↔
    ∃ made path staged, Gives (Host.createDirs output.parent) world () made ∧
      Gives (Host.createFreshDir output.parent stagingName) made path staged ∧
      ((output.stage path bundle : Session _).run staged).1 = .ok () := by
  constructor
  · intro fine
    have done := gives_of_ok fine
    unfold write at done
    obtain ⟨_, made, makes, done⟩ := gives_bind done not_gives_error
    obtain ⟨path, staged, stages, done⟩ := gives_bind done not_gives_error
    exact ⟨made, path, staged, makes, stages, done.ok⟩
  · rintro ⟨made, path, staged, makes, stages, fine⟩
    refine ok_bind makes (ok_bind stages (ok_then (ok_then ?_)))
    exact fine

end Parts

section Swap

theorem run_isPresent (stands : output.Stands above last)
    (plain : ∀ target, world.tree.at? (above ++ [last]) ≠ some (.link target)) (way : world.tree.HasWay above)
    (fits : Fits (above ++ [last])) : (Host.isPresent output.directory : Session Bool).run world =
      ((world.tree.at? (above ++ [last])).isSome, world) := by
  have asks : world.tree.isPresent world.current (pathOf (above ++ [last])) = _ :=
    isPresent_eq stands.proper way plain fits
  rw [stands.directory, ← asks]
  rfl

/-- The old output is moved into a new directory, if its path there is short enough. -/
theorem rename_aside {holder : String} {made : World} (stands : output.Stands above last)
    (named : IsName holder) (way : world.tree.HasWay above) (rooted : Rooted above world.tree)
    (grown : made.tree = world.tree.put (above ++ [holder]) .directory)
    (fits : Fits (above ++ [last])) (backup : Fits (above ++ [holder] ++ [backupName]))
    (present : world.tree.at? (above ++ [last]) ≠ none) (unused : world.tree.at? (above ++ [holder]) = none) :
    ∃ after, Gives (Host.rename output.directory ((pathOf (above ++ [holder])).join backupName)) made () after ∧
      after.tree = aside above last holder world.tree := by
  have apart : last ≠ holder := by
    rintro rfl
    exact present unused
  have properHolder : ∀ name ∈ above ++ [holder], IsName name := isName_concat stands.isName_above named
  have proper : ∀ name ∈ above ++ [holder] ++ [backupName], IsName name := isName_concat properHolder isName_backupName
  have wayHolder : made.tree.HasWay (above ++ [holder]) := grown ▸ way.put_directory
  have standing : made.tree.at? (above ++ [last]) ≠ none := by
    rwa [grown, at?_put (by simp), if_neg (by simpa using apart)]
  have bare : made.tree.at? (above ++ [holder] ++ [backupName]) = none := by
    rw [grown, at?_put (by simp), if_neg (by simp), List.append_assoc]
    exact rooted holder [backupName] unused
  have into : ¬ above ++ [last] <+: above ++ [holder] ++ [backupName] := by simp [apart]
  have outOf : ¬ above ++ [holder] ++ [backupName] <+: above ++ [last] := fun front => absurd front.length_le (by simp)
  have led : made.tree.route made.current (pathOf (above ++ [last])) (pathOf (above ++ [holder] ++ [backupName])) = _ :=
    route_free stands.proper proper (wayHolder.anti (List.prefix_append ..)) wayHolder fits backup standing bare into outOf
  rw [stands.directory, join_pathOf properHolder (isPiece_of_isName isName_backupName)]
  refine ⟨_, gives_rename_iff.mpr ⟨_, led, rfl⟩, ?_⟩
  rw [World.move, if_neg (by simp)]
  simp [aside, grown]

/-- What was in the place of the output is out of the way, and what else stood in the directory is as before. -/
theorem gives_moveAside (stands : output.Stands above last)
    (plain : ∀ target, world.tree.at? (above ++ [last]) ≠ some (.link target)) (way : world.tree.HasWay above)
    (rooted : Rooted above world.tree) (fits : Fits (above ++ [last])) (clear : Clear above last world.tree) :
    ∃ holder after, Gives output.moveAside world holder after ∧ after.tree.at? (above ++ [last]) = none ∧
      ∀ other, ¬ above ++ [last] <+: other →
        (∀ name, world.tree.at? (above ++ [name]) = none → ¬ above ++ [name] <+: other) →
        after.tree.at? other = world.tree.at? other := by
  have asked := run_isPresent stands plain way fits
  cases standing : world.tree.at? (above ++ [last]) with
  | none =>
    rw [standing] at asked
    exact ⟨none, world, gives_moveAside_none asked, standing, fun _ _ _ => rfl⟩
  | some item =>
    have present : world.tree.at? (above ++ [last]) ≠ none := by simp [standing]
    obtain ⟨k, first, backup⟩ := clear present
    rw [standing] at asked
    obtain ⟨line, parts⟩ := gives_moveAside_iff asked
    obtain ⟨made, makes, grown⟩ := gives_createFreshDir stands.isName_above isName_previousName
      (show (world.told line).tree.HasWay above from way) first
    rw [← stands.parent] at makes
    have named := isName_previous k
    have unused := first.free
    generalize previousName ++ freshEnd k = holder at backup makes named unused grown
    obtain ⟨after, moves, same⟩ := rename_aside stands named way rooted grown fits backup present unused
    have apart : holder ≠ last := by
      rintro rfl
      exact present unused
    refine ⟨_, after, (parts _ _).mpr ⟨_, made, makes, moves, rfl⟩, ?_, fun other outside apart' => ?_⟩
    · rw [same, aside_last apart List.prefix_rfl]
    · rw [same, aside_other apart outside (apart' holder unused)]

theorem swap_ok_of_clear (stands : output.Stands above last)
    (plain : ∀ target, world.tree.at? (above ++ [last]) ≠ some (.link target))
    (way : world.tree.HasWay (above ++ [staging])) (rooted : Rooted above world.tree)
    (proper : ∀ name ∈ above ++ [staging], IsName name) (apart : last ≠ staging)
    (made : world.tree.at? (above ++ [staging] ++ ["out"]) ≠ none) (fits : Fits (above ++ [last]))
    (fits' : Fits (above ++ [staging] ++ ["out"])) (clear : Clear above last world.tree) :
    ((output.swap (pathOf (above ++ [staging] ++ ["out"])) : Session _).run world).1 = .ok () := by
  have wayAbove := way.anti (List.prefix_append above [staging])
  obtain ⟨holder, aside, moves, absent, others⟩ := gives_moveAside stands plain wayAbove rooted fits clear
  have used : world.tree.at? (above ++ [staging]) ≠ none := by simp [way _ List.prefix_rfl]
  have spared {other : Place} (front : other <+: above ++ [staging] ++ ["out"]) :
      aside.tree.at? other = world.tree.at? other := by
    have within {name : String} (inside : above ++ [name] <+: other) : name = staging := by
      simpa using inside.trans front
    exact others other (fun inside => apart (within inside)) fun name unused inside => used (within inside ▸ unused)
  have wayAside : aside.tree.HasWay (above ++ [staging]) := way.congr fun _ front => spared (front.trans (by simp))
  have proper' : ∀ name ∈ above ++ [staging] ++ ["out"], IsName name :=
    isName_concat proper isName_out
  have led : aside.tree.route aside.current (pathOf (above ++ [staging] ++ ["out"])) (pathOf (above ++ [last])) = _ :=
    route_free proper' stands.proper wayAside (wayAside.anti (List.prefix_append ..)) fits' fits
      (spared List.prefix_rfl ▸ made) absent (fun front => absurd front.length_le (by simp)) (by simp [apart])
  rw [← stands.directory] at led
  exact swap_ok_iff.mpr ⟨holder, aside, moves, (gives_rename_iff.mpr ⟨_, led, rfl⟩).ok⟩

theorem hasWay_of_moveAside (stands : output.Stands above last) (way : world.tree.HasWay above)
    (rooted : Rooted above world.tree) (moves : Gives output.moveAside world holder after) : after.tree.HasWay above := by
  obtain ⟨_, settled⟩ := moveAside_follows.gives (moveAside_ensures stands rfl way rooted) moves
  cases holder with
  | none =>
    have same : after.tree = world.tree := settled
    exact same ▸ way
  | some path =>
    obtain ⟨name, apart, _, same⟩ := settled
    have same : after.tree = aside above last name world.tree := same
    exact same ▸ (hasWay_aside apart way).anti (List.prefix_append ..)

/-- What is known of an old output that has been moved aside. -/
theorem aside_of_moveAside {path : Path} (stands : output.Stands above last) (free : world.tree.LinkFree above)
    (moves : Gives output.moveAside world (some path) after) : ∃ k, world.tree.First above previousName k ∧
      path = pathOf (above ++ [previousName ++ freshEnd k]) ∧
      after.tree = aside above last (previousName ++ freshEnd k) world.tree ∧ world.tree.HasWay above ∧
      world.tree.at? (above ++ [last]) ≠ none ∧ Fits (above ++ [last]) ∧
      Fits (above ++ [previousName ++ freshEnd k] ++ [backupName]) := by
  rcases moveAside_cases moves with ⟨⟨⟩, _⟩ | ⟨line, path, made, makes, shifts, ⟨⟩⟩
  rw [stands.parent] at makes
  obtain ⟨way, k, first, rfl, rfl⟩ := (gives_createFreshDir_iff stands.isName_above isName_previousName
    (show (world.told line).tree.LinkFree above from free)).mp makes
  refine ⟨k, first, rfl, ?_⟩
  have proper : ∀ name ∈ above ++ [previousName ++ freshEnd k], IsName name :=
    isName_concat stands.isName_above (isName_previous k)
  have properBackup := isName_concat proper isName_backupName
  have unused : world.tree.at? (above ++ [previousName ++ freshEnd k]) = none := first.free
  generalize previousName ++ freshEnd k = holder at shifts proper properBackup unused
  have wayHolder : (world.tree.put (above ++ [holder]) .directory).HasWay (above ++ [holder]) := way.put_directory
  have freeAbove := (wayHolder.anti (List.prefix_append ..)).linkFree
  rw [stands.directory, join_pathOf proper (isPiece_of_isName isName_backupName)] at shifts
  obtain ⟨⟨source, target⟩, led, rfl⟩ := gives_rename_iff.mp shifts
  obtain ⟨sourceLed, targetLed, _, _, moved, standing, _⟩ := route_spec led
  obtain ⟨rfl, fits, _⟩ := (locate_eq_ok_iff stands.proper freeAbove (by simp)).mp sourceLed
  obtain ⟨rfl, fitsBackup, _⟩ := (locate_eq_ok_iff properBackup wayHolder.linkFree (by simp)).mp targetLed
  obtain ⟨_, into, _⟩ := route_eq_ok stands.proper properBackup freeAbove wayHolder.linkFree led
  have apart : last ≠ holder := by
    rintro rfl
    exact absurd (into (List.prefix_append ..)) (by simp)
  have standing : (world.tree.put (above ++ [holder]) .directory).at? (above ++ [last]) = some moved := standing
  rw [at?_put (by simp), if_neg (by simpa using apart)] at standing
  refine ⟨?_, way, by simp [standing], fits, fitsBackup⟩
  rw [World.move, if_neg (by simp)]
  simp [aside]

/-- What has been moved aside has found room. -/
theorem clear_of_moveAside (stands : output.Stands above last)
    (plain : ∀ target, world.tree.at? (above ++ [last]) ≠ some (.link target)) (way : world.tree.HasWay above)
    (fits : Fits (above ++ [last])) (moves : Gives output.moveAside world holder after) : Clear above last world.tree := by
  intro present
  have asked := run_isPresent stands plain way fits
  rw [Option.isSome_iff_ne_none.mpr present] at asked
  obtain ⟨_, parts⟩ := gives_moveAside_iff asked
  obtain ⟨_, _, _, _, rfl⟩ := (parts _ _).mp moves
  obtain ⟨k, first, _, _, _, _, _, backup⟩ := aside_of_moveAside stands way.linkFree moves
  exact ⟨k, first, backup⟩

/-- A swap that succeeds has found room for both outputs. -/
theorem clear_of_swap (stands : output.Stands above last)
    (plain : ∀ target, world.tree.at? (above ++ [last]) ≠ some (.link target))
    (way : world.tree.HasWay above) (rooted : Rooted above world.tree)
    (proper : ∀ name ∈ above ++ [staging], IsName name) (made : world.tree.at? (above ++ [staging]) = some .directory)
    (fine : ((output.swap (pathOf (above ++ [staging] ++ ["out"])) : Session _).run world).1 = .ok ()) :
    last ≠ staging ∧ Fits (above ++ [last]) ∧ Clear above last world.tree := by
  obtain ⟨_, outcome, _⟩ := (swap_follows (pathOf (above ++ [staging] ++ ["out"]))).gives
    (swap_ensures stands rfl way rooted proper made) (gives_of_ok fine)
  obtain ⟨holder, aside, moves, installs⟩ := swap_ok_iff.mp fine
  obtain ⟨_, led, _⟩ := gives_rename_iff.mp (gives_of_ok installs)
  rw [stands.directory] at led
  have fits := fits_of_route stands.proper (hasWay_of_moveAside stands way rooted moves).linkFree led
  exact ⟨outcome.1, fits, clear_of_moveAside stands plain way fits moves⟩

end Swap

/-- A file in a new directory changes nothing that stands beside the directory. -/
theorem beside_staged {item : Item} {filename : String} (way : tree.HasWay (above ++ [staging])) (rooted : Rooted above tree)
    (grown : GrownTo (above ++ [staging] ++ ["out"]) tree tree') :
    let wrote := tree'.put (above ++ [staging] ++ ["out"] ++ [filename]) item
    (∀ name, wrote.at? (above ++ [name]) = tree.at? (above ++ [name])) ∧ wrote.HasWay (above ++ [staging]) ∧
      Rooted above wrote := by
  intro wrote
  have outside (other : Place) (outside : ¬ above ++ [staging] <+: other) : wrote.at? other = tree.at? other :=
    at?_spilled_outside way grown outside
  have here := way _ List.prefix_rfl
  have still : wrote.at? (above ++ [staging]) = some .directory := by
    rw [at?_put (by simp), if_neg (by simp), grown.keeps here]
  refine ⟨fun name => ?_, fun other front => ?_, .of_agree outside (by simp [still]) rooted⟩
  · by_cases same : name = staging
    · rw [same, still, here]
    · exact outside _ (by simpa using Ne.symm same)
  · rcases List.prefix_concat_iff.mp front with rfl | front
    · exact still
    · rw [outside other (not_prefix_above front), way other (front.trans (List.prefix_append ..))]

/-- What is written into a new directory changes nothing that stands beside the directory. -/
theorem beside_written {made wrote : World} {filename : String} (piece : IsPiece filename)
    (way : world.tree.HasWay (above ++ [staging])) (rooted : Rooted above world.tree)
    (proper : ∀ name ∈ above ++ [staging], IsName name)
    (bare : ∀ name rest, world.tree.at? (above ++ staging :: name :: rest) = none)
    (makes : Gives (Host.createDirs (pathOf (above ++ [staging] ++ ["out"]))) world () made)
    (writes : Gives (Host.writeText (pathOf (above ++ [staging] ++ ["out"] ++ [filename])) bundle) made () wrote) :
    IsName filename ∧ Fits (above ++ [staging] ++ ["out"] ++ [filename]) ∧
      (∀ name, wrote.tree.at? (above ++ [name]) = world.tree.at? (above ++ [name])) ∧
      wrote.tree.HasWay (above ++ [staging]) ∧ Rooted above wrote.tree := by
  have properOut : ∀ name ∈ above ++ [staging] ++ ["out"], IsName name := isName_concat proper isName_out
  have unused : world.tree.at? (above ++ [staging] ++ ["out"]) = none := by simpa using bare "out" []
  have free : world.tree.LinkFree (above ++ [staging] ++ ["out"]) := way.linkFree.append fun target =>
    by rw [unused]; simp
  have grown : GrownTo _ world.tree (world.tree.createDirs world.current _).1 := createDirs_grown properOut free
  rw [(gives_createDirs_iff.mp makes).1] at grown
  obtain ⟨named, fits, _, rfl⟩ := (gives_writeText_iff properOut piece (grown.linkFree free)
    (at?_grown_inside bare grown _ [])).mp writes
  exact ⟨named, fits, beside_staged way rooted grown⟩

/-- A new output is made in its directory and put into its place exactly if its paths are short enough and the old one can
be moved aside. -/
theorem stage_ok_iff_clear (stands : output.Stands above last) (piece : IsPiece output.filename)
    (plain : ∀ target, world.tree.at? (above ++ [last]) ≠ some (.link target))
    (way : world.tree.HasWay (above ++ [staging])) (rooted : Rooted above world.tree)
    (proper : ∀ name ∈ above ++ [staging], IsName name)
    (bare : ∀ name rest, world.tree.at? (above ++ staging :: name :: rest) = none) :
    ((output.stage (pathOf (above ++ [staging])) bundle : Session _).run world).1 = .ok () ↔
      last ≠ staging ∧ IsName output.filename ∧ Fits (above ++ [staging] ++ ["out"] ++ [output.filename]) ∧
        Fits (above ++ [last]) ∧ Clear above last world.tree := by
  have properOut : ∀ name ∈ above ++ [staging] ++ ["out"], IsName name :=
    isName_concat proper isName_out
  rw [stage_ok_iff, join_pathOf proper (isPiece_of_isName isName_out), join_pathOf properOut piece]
  constructor
  · rintro ⟨made, _, makes, writes, swaps⟩
    obtain ⟨named, fits, names, way', rooted'⟩ := beside_written piece way rooted proper bare makes writes
    obtain ⟨apart, place, clear⟩ := clear_of_swap stands (names last ▸ plain) (way'.anti (List.prefix_append ..)) rooted'
      proper (way' _ List.prefix_rfl) swaps
    exact ⟨apart, named, fits, place, (Clear.congr (names last) fun k => names _).mp clear⟩
  · rintro ⟨apart, named, fits, place, clear⟩
    have fitsOut := fits.above
    have unused : world.tree.at? (above ++ [staging] ++ ["out"]) = none := by simpa using bare "out" []
    obtain ⟨made, makes, same⟩ := gives_createDirs (createDirs_new properOut way fitsOut unused)
    have grown : GrownTo (above ++ [staging] ++ ["out"]) world.tree made.tree := same ▸ .put unused List.prefix_rfl
    obtain ⟨wrote, writes, same'⟩ := gives_writeText (isName_concat properOut named) fits (same ▸ way.put_directory)
      (at?_grown_inside bare grown _ []) bundle
    obtain ⟨names, way', rooted'⟩ := beside_staged way rooted grown
    rw [← same'] at names way' rooted'
    have standing : wrote.tree.at? (above ++ [staging] ++ ["out"]) ≠ none := by
      rw [same', at?_put (by simp), if_neg (by simp), same, at?_put (by simp), if_pos rfl]
      simp
    exact ⟨made, wrote, makes, writes, swap_ok_of_clear stands (names last ▸ plain) way' rooted' proper apart standing
      place fitsOut ((Clear.congr (names last) fun k => names _).mpr clear)⟩

/-- The new directory changes nothing that stands beside it either. -/
theorem beside_fresh (way : tree.HasWay above) (rooted : Rooted above tree)
    (unused : tree.at? (above ++ [staging]) = none) :
    let made := tree.put (above ++ [staging]) .directory
    (∀ name, name ≠ staging → made.at? (above ++ [name]) = tree.at? (above ++ [name])) ∧
      made.HasWay (above ++ [staging]) ∧ Rooted above made ∧
      ∀ name rest, made.at? (above ++ staging :: name :: rest) = none := by
  intro made
  have others (name : String) (apart : name ≠ staging) : made.at? (above ++ [name]) = tree.at? (above ++ [name]) := by
    rw [at?_put (by simp), if_neg (by simpa using apart)]
  refine ⟨others, way.put_directory, fun name rest free => ?_, fun name rest => ?_⟩
  · have apart : name ≠ staging := by
      rintro rfl
      rw [at?_put (by simp), if_pos rfl] at free
      cases free
    rw [at?_put (by simp), if_neg (by simp [apart])]
    exact rooted name rest (others name apart ▸ free)
  · rw [at?_put (by simp), if_neg (by simp)]
    exact rooted staging (name :: rest) unused

theorem stage_ok_iff_roomy {staged : World} (stands : output.Stands above last) (piece : IsPiece output.filename)
    (plain : ∀ target, tree.at? (above ++ [last]) ≠ some (.link target)) (way : tree.HasWay above)
    (rooted : Rooted above tree) (first : tree.First above stagingName n)
    (same : staged.tree = tree.put (above ++ [stagingName ++ freshEnd n]) .directory) :
    ((output.stage (pathOf (above ++ [stagingName ++ freshEnd n])) bundle : Session _).run staged).1 = .ok () ↔
      output.Roomy above last tree n ∧ Clear above last tree := by
  have proper : ∀ name ∈ above ++ [stagingName ++ freshEnd n], IsName name :=
    isName_concat stands.isName_above (isName_append isName_stagingName (not_mem_freshEnd n))
  obtain ⟨others, way', rooted', bare⟩ := beside_fresh way rooted first.free
  rw [← same] at others way' rooted' bare
  have plain' (target : String) : staged.tree.at? (above ++ [last]) ≠ some (.link target) := by
    by_cases here : last = stagingName ++ freshEnd n
    · rw [here, way' _ List.prefix_rfl]
      simp
    · exact others last here ▸ plain target
  have clear (apart : last ≠ stagingName ++ freshEnd n) : Clear above last staged.tree ↔ Clear above last tree :=
    Clear.congr (others last apart) fun k => others _ (previous_ne_staging k n)
  rw [stage_ok_iff_clear stands piece plain' way' rooted' proper bare]
  constructor
  · rintro ⟨apart, named, fits, place, free⟩
    exact ⟨⟨first, apart, named, fits, place⟩, (clear apart).mp free⟩
  · rintro ⟨⟨_, apart, named, fits, place⟩, free⟩
    exact ⟨apart, named, fits, place, (clear apart).mpr free⟩

/-- A bundle can be written exactly if the directories above the output can be made, there is room for a new output, and
the old one can be moved aside. -/
theorem write_ok_iff_roomy (stands : output.Stands above last) (piece : IsPiece output.filename)
    (free : world.tree.LinkFree above) (grounded : world.tree.Grounded)
    (plain : ∀ target, world.tree.at? (above ++ [last]) ≠ some (.link target)) :
    ((output.write bundle : Session _).run world).1 = .ok () ↔
      ∃ made, world.tree.createDirs world.current (pathOf above) = (made, .ok ()) ∧ made.HasWay above ∧
        (∃ n, output.Roomy above last made n) ∧ Clear above last made := by
  have growing : GrownTo above world.tree (world.tree.createDirs world.current (pathOf above)).1 :=
    createDirs_grown stands.isName_above free
  rw [write_ok_iff, stands.parent]
  constructor
  · rintro ⟨made, path, staged, makes, stages, fine⟩
    obtain ⟨created, _⟩ := gives_createDirs_iff.mp makes
    rw [created] at growing
    obtain ⟨way, n, first, rfl, rfl⟩ :=
      (gives_createFreshDir_iff stands.isName_above isName_stagingName (growing.linkFree free)).mp stages
    have rooted : Rooted above made.tree := .of_grown grounded growing
    obtain ⟨roomy, clear⟩ := (stage_ok_iff_roomy stands piece (growing.beyond last [] ▸ plain) way rooted first rfl).mp fine
    exact ⟨made.tree, created, way, ⟨n, roomy⟩, clear⟩
  · rintro ⟨tree, created, way, ⟨n, roomy⟩, clear⟩
    rw [created] at growing
    obtain ⟨made, makes, rfl⟩ := gives_createDirs created
    obtain ⟨staged, stages, same⟩ := gives_createFreshDir stands.isName_above isName_stagingName way roomy.first
    have rooted : Rooted above made.tree := .of_grown grounded growing
    exact ⟨made, _, staged, makes, stages,
      (stage_ok_iff_roomy stands piece (growing.beyond last [] ▸ plain) way rooted roomy.first same).mpr ⟨roomy, clear⟩⟩

end Bundler.Output
