import Bundler.Proofs.Build.Writable
import Bundler.Proofs.Search.Run

/-!
Writing a bundle that fails. Where calls fail for reasons of the files alone, what was moved aside can always be moved
back, so all that was there still is.
-/

namespace Bundler.Output

open FileTree Bundler.Path Session

variable {output : Output} {above place : Place} {last staging bundle : String} {world after : World} {holder : Path}
  {graph : ModuleGraph} {root : Path}

/-- What has been moved aside can be moved back. -/
theorem gives_moveBack (stands : output.Stands above last) (free : world.tree.LinkFree above)
    (moves : Gives output.moveAside world (some holder) after) :
    ∃ back, Gives (Host.rename (holder.join backupName) output.directory) after () back := by
  obtain ⟨k, first, rfl, same, way, standing, fits, backup⟩ := aside_of_moveAside stands free moves
  have named := isName_previous k
  have unused := first.free
  generalize previousName ++ freshEnd k = holder at same named backup unused
  have apart : holder ≠ last := by
    rintro rfl
    exact standing unused
  have proper : ∀ name ∈ above ++ [holder], IsName name := isName_concat stands.isName_above named
  have wayHolder : after.tree.HasWay (above ++ [holder]) := same ▸ hasWay_aside apart way
  have kept : after.tree.at? (above ++ [holder] ++ [backupName]) ≠ none := by
    rw [same, List.append_assoc, List.singleton_append, aside_backup apart]
    exact standing
  have gone : after.tree.at? (above ++ [last]) = none := same ▸ aside_last apart List.prefix_rfl
  rw [stands.directory, join_pathOf proper (isPiece_of_isName isName_backupName)]
  exact ⟨_, gives_rename_iff.mpr ⟨_, route_free (isName_concat proper isName_backupName) stands.proper wayHolder
    (wayHolder.anti (List.prefix_append ..)) backup fits kept gone (fun front => absurd front.length_le (by simp))
    (by simp [apart.symm]), rfl⟩⟩

/-- Whether a write does not leave the old output where it was moved to. -/
def PutsBack (work : Session (Except WriteError Unit)) (world : World) : Prop :=
  ∀ install kept restore, (work.run world).1 ≠ .error (.stranded install kept restore)

/-- Work that goes on only behind a success puts back what is moved behind it. -/
theorem PutsBack.bind {α : Type} {work : Session (Except FileError α)}
    {next : Except FileError α → Session (Except WriteError Unit)}
    (fails : ∀ e, next (.error e) = pure (.error (.file e)))
    (onward : ∀ a middle, Gives work world a middle → PutsBack (next (.ok a)) middle) : PutsBack (work >>= next) world := by
  intro install kept restore
  rcases ran : work.run world with ⟨e | a, middle⟩
  · rw [run_bind_of ran, fails]
    nofun
  · rw [run_bind_of ran]
    exact onward a middle ran install kept restore

theorem PutsBack.removing {work : Session (Except WriteError Unit)} (back : PutsBack work world) (path : Path) :
    PutsBack (do let result ← work; Host.removeTree path; return result) world := back

theorem swap_putsBack {staged : Path} (stands : output.Stands above last) (free : world.tree.LinkFree above) :
    PutsBack (output.swap staged) world := by
  refine .bind (fun _ => rfl) fun holder aside moves install kept restore => ?_
  rcases installs : (Host.rename staged output.directory : Session _).run aside with ⟨e | _, installed⟩
  · -- Nothing has moved since the old output was moved aside.
    obtain rfl : aside = installed := by
      rw [run_rename] at installs
      split at installs
      · cases installs
      · exact congrArg Prod.snd installs
    rw [run_bind_of installs]
    cases holder with
    | none => nofun
    | some holder =>
      obtain ⟨back, restores⟩ := gives_moveBack stands free moves
      dsimp only
      rw [StateT.run_bind]
      unfold Output.restore
      rw [run_bind_of restores]
      nofun
  · rw [run_bind_of installs]
    nofun

theorem stage_putsBack (stands : output.Stands above last) (piece : IsPiece output.filename)
    (way : world.tree.HasWay (above ++ [staging])) (rooted : Rooted above world.tree)
    (proper : ∀ name ∈ above ++ [staging], IsName name)
    (bare : ∀ name rest, world.tree.at? (above ++ staging :: name :: rest) = none) :
    PutsBack (output.stage (pathOf (above ++ [staging])) bundle) world := by
  have properOut : ∀ name ∈ above ++ [staging] ++ ["out"], IsName name := isName_concat proper isName_out
  unfold stage
  rw [join_pathOf proper (isPiece_of_isName isName_out)]
  dsimp only
  rw [join_pathOf properOut piece]
  refine .bind (fun _ => rfl) fun _ made makes => .bind (fun _ => rfl) fun _ wrote writes => ?_
  obtain ⟨_, _, _, way', _⟩ := beside_written piece way rooted proper bare makes writes
  exact swap_putsBack stands (way'.anti (List.prefix_append ..)).linkFree

theorem write_putsBack (stands : output.Stands above last) (piece : IsPiece output.filename)
    (free : world.tree.LinkFree above) (grounded : world.tree.Grounded) : PutsBack (output.write bundle) world := by
  unfold write
  rw [stands.parent]
  refine .bind (fun _ => rfl) fun _ made makes => .bind (fun _ => rfl) fun path staged stages => ?_
  have grown : GrownTo above world.tree (world.tree.createDirs world.current (pathOf above)).1 :=
    createDirs_grown stands.isName_above free
  rw [(gives_createDirs_iff.mp makes).1] at grown
  obtain ⟨way, k, first, rfl, rfl⟩ :=
    (gives_createFreshDir_iff stands.isName_above isName_stagingName (grown.linkFree free)).mp stages
  obtain ⟨_, way', rooted, bare⟩ := beside_fresh way (.of_grown grounded grown) first.free
  have proper := isName_concat stands.isName_above (isName_append isName_stagingName (not_mem_freshEnd k))
  exact (stage_putsBack stands piece way' rooted proper bare).removing _

theorem emit_putsBack (stands : output.Stands above last) (piece : IsPiece output.filename)
    (free : world.tree.LinkFree above) (grounded : world.tree.Grounded) (directory : Path) (install : FileError)
    (kept : Path) (restore : FileError) :
    ((output.emit graph root : Session _).run world).1 ≠ .error (.write directory (.stranded install kept restore)) := by
  have back (line : LogLine) : PutsBack (output.write (Bundle.render graph)) (world.told line) :=
    write_putsBack stands piece free grounded
  unfold emit
  split
  · next refused => exact fun same => check_ne_write refused _ _ (Except.error.inj same)
  · nofun
  dsimp only
  rw [run_bind_of (run_log _)]
  rcases wrote : (output.write (Bundle.render graph) : Session _).run (world.told _) with ⟨e | _, written⟩
  · rw [run_bind_of wrote]
    rintro ⟨⟩
    exact back _ install kept restore (congrArg Prod.fst wrote)
  · rw [run_bind_of wrote]
    nofun

/-- A bundle that is not written leaves all that was there. -/
theorem emit_keeps {e : EmitError} {item : Item} (stands : output.Stands above last) (piece : IsPiece output.filename)
    (free : world.tree.LinkFree above) (grounded : world.tree.Grounded)
    (failed : ((output.emit graph root : Session _).run world).1 = .error e) (found : world.tree.at? place = some item) :
    ((output.emit graph root : Session _).run world).2.tree.at? place = some item := by
  have ended : Trial.Ensures (output.emit graph root) ⟨world, [], [], []⟩
      (Ended output graph above last world.tree) := emit_ensures stands piece free grounded graph root
  obtain ⟨_, follows⟩ := emit_follows graph root world [] []
  rw [Trial.Ensures, follows] at ended
  exact ended.unchanged failed (fun _ _ _ _ stranded =>
    emit_putsBack stands piece free grounded _ _ _ _ (failed.trans (congrArg Except.error stranded))) found

end Bundler.Output
