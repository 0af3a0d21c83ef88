import Bundler.Proofs.Build.Swap

/-!
The moves of a write that cannot put the old output back. There are three: the old output was moved aside, the new one
could not be moved into its place, and the old one could not be moved back.
-/

namespace Bundler

namespace Output

open FileTree Bundler.Path Trial

variable {output : Output} {above : Place} {last : String} {before after : Tried} {staged staging kept : Path}
  {bundle : String} {earlier : List Move} {result : Except WriteError Unit} {install restore : FileError}

/-- Whether an error that tells where the old output is kept comes from moves that were made: the old output went there,
then the new one did not go into its place, and then the old one did not come back. -/
def Told (output : Output) (staged : Path) (earlier : List Move) (result : Except WriteError Unit) (after : Tried) : Prop :=
  ∀ install kept restore, result = .error (.stranded install kept restore) →
    after.moves = earlier ++ [⟨output.directory, kept, .ok ()⟩, ⟨staged, output.directory, .error install⟩,
      ⟨kept, output.directory, .error restore⟩]

theorem Told.of_file {e : FileError} : Told output staged earlier (.error (.file e)) after := nofun

theorem Told.of_ok : Told output staged earlier (.ok ()) after := nofun

theorem Told.onward {after' : Tried} (told : Told output staged earlier result after) (same : after'.moves = after.moves) :
    Told output staged earlier result after' :=
  fun install kept restore failed => same.trans (told install kept restore failed)

theorem moveAside_moves : Ensures (output.moveAside : Trial _) before fun result after =>
    ∀ holder, result = .ok (some holder) →
      after.moves = before.moves ++ [⟨output.directory, holder.join backupName, .ok ()⟩] := by
  unfold moveAside
  refine .bind (isPresent_moves _) fun present asked same => ?_
  split
  · exact .pure nofun
  refine .bind (log_moves _) fun _ logged same' => .bind (createFreshDir_moves _ _) fun made making same'' => ?_
  cases made with
  | error e => exact .pure nofun
  | ok holder =>
    refine .bind (rename_moves _ _) fun moved moving recorded => ?_
    cases moved with
    | error e => exact .bind (removeTree_moves _) fun _ _ _ => .pure nofun
    | ok _ =>
      refine .pure fun holder' aside => ?_
      cases aside
      rw [recorded, same'', same', same]

/-- The old output is told to be kept only after it was moved back in vain. -/
theorem restore_moves (holder : Path) (install : FileError) :
    Ensures (output.restore holder install : Trial _) before fun e after => ∀ install' kept restore,
      e = .stranded install' kept restore → install' = install ∧ kept = holder.join backupName ∧
        after.moves = before.moves ++ [⟨kept, output.directory, .error restore⟩] := by
  unfold Output.restore
  refine .bind (rename_moves _ _) fun moved moving recorded => ?_
  cases moved with
  | ok _ => exact .bind (removeTree_moves _) fun _ _ _ => .pure nofun
  | error e =>
    refine .pure fun install' kept restore stranded => ?_
    cases stranded
    exact ⟨rfl, rfl, recorded⟩

theorem swap_moves (staged : Path) : Ensures (output.swap staged : Trial _) before (Told output staged before.moves) := by
  unfold swap
  refine .bind moveAside_moves fun moved moving aside => ?_
  match moved with
  | .error e => exact .pure .of_file
  | .ok holder =>
    refine .bind (rename_moves _ _) fun installed installing recorded => ?_
    match installed, holder with
    | .ok _, none => exact .pure .of_ok
    | .ok _, some _ => exact .bind (removeTree_moves _) fun _ _ _ => .pure .of_ok
    | .error e, none => exact .pure .of_file
    | .error e, some holder =>
      refine .bind (restore_moves holder e) fun problem restoring told => .pure fun install kept restore failed => ?_
      obtain ⟨rfl, rfl, back⟩ := told install kept restore (Except.error.inj failed)
      rw [back, recorded, aside holder rfl, List.append_assoc, List.append_assoc]
      rfl

theorem stage_moves (staging : Path) :
    Ensures (output.stage staging bundle : Trial _) before (Told output (staging.join "out") before.moves) := by
  unfold stage
  refine .bind (createDirs_moves _) fun made making same => ?_
  cases made with
  | error e => exact .pure .of_file
  | ok _ =>
    refine .bind (writeText_moves _ _) fun wrote writing same' => ?_
    cases wrote with
    | error e => exact .pure .of_file
    | ok _ => exact same ▸ same' ▸ swap_moves _

/-- The new output is made in a directory beside the old one. -/
theorem write_moves (stands : output.Stands above last) :
    Ensures (output.write bundle : Trial _) before fun result after => ∃ name, stagingName.toList <+: name.toList ∧
      Told output (pathOf (above ++ [name, "out"])) before.moves result after := by
  have known : stagingName.toList <+: stagingName.toList := List.prefix_rfl
  unfold write
  refine .bind (createDirs_moves _) fun made making same => ?_
  cases made with
  | error e => exact .pure ⟨_, known, .of_file⟩
  | ok _ =>
    rw [stands.parent]
    refine .bind (createFreshDir_named stands.isName_above isName_stagingName) fun fresh freshening ⟨same', named⟩ => ?_
    cases fresh with
    | error e => exact .pure ⟨_, known, .of_file⟩
    | ok staging =>
      obtain ⟨name, front, proper, rfl⟩ := named staging rfl
      refine .bind (stage_moves _) fun result staged told => .bind (removeTree_moves _) fun _ removed same'' => ?_
      rw [join_pathOf proper (isPiece_of_isName isName_out), List.append_assoc, same', same] at told
      exact .pure ⟨name, front, told.onward same''⟩

end Output

end Bundler
