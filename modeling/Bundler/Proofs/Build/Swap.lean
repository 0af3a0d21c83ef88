import Bundler.Build.Output
import Bundler.Proofs.Host.Trial

/-!
Putting a new output directory into the place of the old one, whichever calls fail. The places that matter are beside
each other in one directory: the output, the directory in which the new one is made, and the one in which the old one
waits.
-/

namespace Bundler

namespace Output

open FileTree Bundler.Path Trial

variable {output : Output} {above : Place} {last staging holder : String} {tree : FileTree} {before after : Tried}
  {other rest : Place} {bundle : String}

/-- Whether nothing stands below what is not there, right below a place. -/
def Rooted (above : Place) (tree : FileTree) : Prop :=
  ∀ name rest, tree.at? (above ++ [name]) = none → tree.at? (above ++ name :: rest) = none

/-- Whether something new is left over from a write: it is in a directory that should have been removed. -/
def LeftOver (above : Place) (tree : FileTree) (spared : List Path) (other : Place) : Prop :=
  ∃ start ∈ [stagingName, previousName], ∃ name, start.toList <+: name.toList ∧ tree.at? (above ++ [name]) = none ∧
    above ++ [name] <+: other ∧ pathOf (above ++ [name]) ∈ spared

/-- Whether what stands at a place is what stood there, or is left over where there was nothing. -/
def SameAt (above : Place) (tree : FileTree) (after : Tried) (other : Place) : Prop :=
  after.world.tree.at? other = tree.at? other ∨ tree.at? other = none ∧ LeftOver above tree after.spared other

/-- Whether the output directory is called `last` and is in the directory `above`. -/
structure Stands (output : Output) (above : Place) (last : String) : Prop where
  directory : output.directory = pathOf (above ++ [last])
  parent : output.parent = pathOf above
  proper : ∀ other ∈ above ++ [last], IsName other

theorem Stands.isName_above (stands : output.Stands above last) : ∀ name ∈ above, IsName name :=
  fun name member => stands.proper name (List.mem_append_left _ member)

theorem isName_previousName : IsName previousName := by simp [IsName, IsSegment, previousName]

theorem isName_stagingName : IsName stagingName := by simp [IsName, IsSegment, stagingName]

theorem isName_out : IsName "out" := by simp [IsName, IsSegment]

theorem isName_backupName : IsName backupName := by simp [IsName, IsSegment, backupName]

theorem SameAt.of_eq (same : after.world.tree.at? other = tree.at? other) : SameAt above tree after other := .inl same

theorem not_prefix_above {name : String} (front : other <+: above) : ¬ above ++ name :: rest <+: other :=
  fun below => absurd (below.trans front).length_le (by simp)

/-- The tree whose old output has been moved into a new directory. -/
def aside (above : Place) (last holder : String) (tree : FileTree) : FileTree :=
  (tree.put (above ++ [holder]) .directory).move (above ++ [last]) (above ++ [holder, backupName])

section Aside

variable (apart : holder ≠ last)

include apart

theorem at?_aside : (aside above last holder tree).at? other =
    if above ++ [holder, backupName] <+: other then tree.at? (above ++ last :: other.drop (above.length + 2))
    else if above ++ [last] <+: other then none
    else if other = above ++ [holder] then some .directory
    else tree.at? other := by
  rw [aside, at?_move (by simp) (by simpa using Ne.symm apart) (by simp [apart]), at?_put (by simp), at?_put (by simp)]
  simp [apart.symm]

theorem aside_backup (rest : Place) : (aside above last holder tree).at? (above ++ holder :: backupName :: rest) =
    tree.at? (above ++ last :: rest) := by
  rw [at?_aside apart, if_pos (by simp)]
  simp

theorem aside_last (inside : above ++ [last] <+: other) : (aside above last holder tree).at? other = none := by
  obtain ⟨rest, rfl⟩ := inside
  rw [at?_aside apart, if_neg (by simp [apart]), if_pos (by simp)]

theorem aside_other (outside : ¬ above ++ [last] <+: other) (outside' : ¬ above ++ [holder] <+: other) :
    (aside above last holder tree).at? other = tree.at? other := by
  have behind : ¬ above ++ [holder, backupName] <+: other := fun below =>
    outside' (.trans (by simp) below)
  rw [at?_aside apart, if_neg behind, if_neg outside, if_neg]
  rintro rfl
  exact outside' List.prefix_rfl

theorem hasWay_aside (way : tree.HasWay above) : (aside above last holder tree).HasWay (above ++ [holder]) := by
  refine (way.congr fun _ front => aside_other apart (not_prefix_above front) (not_prefix_above front)).append ?_
  rw [at?_aside apart, if_neg (by simp), if_neg (by simpa using apart.symm), if_pos rfl]

/-- The old output is back in its place. -/
theorem at?_restored (outside : ¬ above ++ [holder] <+: other) :
    ((aside above last holder tree).move (above ++ [holder] ++ [backupName]) (above ++ [last])).at? other =
      tree.at? other := by
  rw [List.append_assoc, List.singleton_append, at?_move (by simp) (by simp [apart]) (by simp [apart.symm])]
  split
  · next inside =>
    obtain ⟨rest, rfl⟩ := inside
    rw [List.drop_left, List.append_assoc, List.cons_append, List.cons_append, List.nil_append, aside_backup apart]
    simp
  · next outside' =>
    rw [if_neg fun below => outside (.trans (by simp) below), aside_other apart outside' outside]

end Aside

/-- A new directory is gone again, or it is left over. -/
theorem removeTree_fresh (rooted : Rooted above tree) {start : String} (known : start ∈ [stagingName, previousName])
    {path : Path} (fresh : IsFresh above start tree path holder) (way : before.world.tree.HasWay above) :
    Ensures (Host.removeTree path) before fun _ after =>
      (∀ other, ¬ above ++ [holder] <+: other → after.world.tree.at? other = before.world.tree.at? other) ∧
        (∀ other, above ++ [holder] <+: other → SameAt above tree after other) ∧ before.spared ⊆ after.spared := by
  rw [fresh.path]
  refine (removeTree_ensures fresh.proper fresh.fits way).mono fun _ after removed => ?_
  have nothing {other : Place} (below : above ++ [holder] <+: other) : tree.at? other = none := by
    obtain ⟨rest, rfl⟩ := below
    simpa using rooted holder rest fresh.unused
  rcases removed with ⟨same, spared⟩ | ⟨same, spared⟩
  · have gone (other : Place) : after.world.tree.at? other = _ := same ▸ at?_drop (by simp)
    refine ⟨fun other outside => by rw [gone, if_neg outside], fun other below => .of_eq ?_,
      spared ▸ List.Subset.refl _⟩
    rw [gone, if_pos below, nothing below]
  · refine ⟨fun other _ => by rw [same], fun other below => .inr ⟨nothing below, ?_⟩, ?_⟩
    · exact ⟨start, known, holder, fresh.front, fresh.unused, below, by simp [spared]⟩
    · rw [spared]
      exact List.subset_cons_self ..

theorem proper_backup {path : Path} (fresh : IsFresh above previousName tree path holder) :
    ∀ other ∈ above ++ [holder] ++ [backupName], IsName other :=
  isName_concat fresh.proper isName_backupName

theorem join_backupName {path : Path} (fresh : IsFresh above previousName tree path holder) :
    path.join backupName = pathOf (above ++ [holder] ++ [backupName]) :=
  fresh.path ▸ join_pathOf fresh.proper (isPiece_of_isName isName_backupName)

theorem moveAside_ensures (stands : output.Stands above last) (here : before.world.tree = tree)
    (way : tree.HasWay above) (rooted : Rooted above tree) :
    Ensures (output.moveAside : Trial _) before fun result after =>
      match result with
      | .ok none => after.world.tree = tree
      | .ok (some path) => ∃ holder, holder ≠ last ∧ IsFresh above previousName tree path holder ∧
        after.world.tree = aside above last holder tree
      | .error _ => ∀ other, SameAt above tree after other := by
  unfold moveAside
  refine .bind (isPresent_ensures _) fun present asked ⟨sameAsked, _⟩ => ?_
  rw [here] at sameAsked
  split
  · exact .pure sameAsked
  refine .bind (log_ensures _) fun _ logged ⟨sameLogged, _⟩ => ?_
  rw [sameAsked] at sameLogged
  rw [stands.parent]
  refine .bind (createFreshDir_ensures stands.isName_above isName_previousName (sameLogged ▸ way.linkFree))
    fun made making ⟨_, new⟩ => ?_
  cases made with
  | error e => exact .pure fun other => .of_eq (by rw [new, sameLogged])
  | ok path =>
    obtain ⟨holder, fresh, same⟩ := new
    rw [sameLogged] at fresh same
    have wayHolder : making.world.tree.HasWay (above ++ [holder]) := same ▸ way.put_directory
    dsimp only
    rw [stands.directory, join_backupName fresh]
    refine .bind (rename_ensures stands.proper (proper_backup fresh) (wayHolder.anti (List.prefix_append ..)).linkFree
      wayHolder.linkFree (by simp)) fun moved moving ⟨_, moves⟩ => ?_
    cases moved with
    | ok _ =>
      obtain ⟨into, outOf, moves⟩ := moves
      refine .pure ⟨holder, ?_, fresh, ?_⟩
      · rintro rfl
        exact into (by simp)
      · rw [moves, same, aside, List.append_assoc]
        rfl
    | error e =>
      refine .bind (removeTree_fresh rooted (by simp) fresh ?_) fun _ removing ⟨outside, inside, _⟩ =>
        .pure fun other => ?_
      · exact (moves ▸ wayHolder).anti (List.prefix_append ..)
      · by_cases below : above ++ [holder] <+: other
        · exact inside other below
        · refine .of_eq ?_
          rw [outside other below, moves, same, at?_put (by simp), if_neg]
          rintro rfl
          exact below List.prefix_rfl

/-- What has become of a tree when its output has been replaced, or not. What is below the directory that the new
output is made in is left open. -/
def Outcome (above : Place) (last staging : String) (tree : FileTree) (result : Except WriteError Unit)
    (after : Tried) : Prop :=
  match result with
  | .ok () => last ≠ staging ∧
    ∀ other, ¬ above ++ [last] <+: other → ¬ above ++ [staging] <+: other → SameAt above tree after other
  | .error (.file _) => ∀ other, ¬ above ++ [staging] <+: other → SameAt above tree after other
  | .error (.stranded _ kept _) => ∃ holder, holder ≠ staging ∧ kept = pathOf (above ++ [holder, backupName]) ∧
    previousName.toList <+: holder.toList ∧ tree.at? (above ++ [holder]) = none ∧
    (last ≠ staging → ∀ rest, after.world.tree.at? (above ++ holder :: backupName :: rest) =
      tree.at? (above ++ last :: rest)) ∧
    (∀ other, ¬ above ++ [last] <+: other → ¬ above ++ [staging] <+: other → ¬ above ++ [holder] <+: other →
      after.world.tree.at? other = tree.at? other) ∧
    ∀ other, above ++ [last] <+: other → after.world.tree.at? other = none

theorem restore_ensures (stands : output.Stands above last) (here : before.world.tree = aside above last holder tree)
    (way : tree.HasWay above) (rooted : Rooted above tree) (apart : holder ≠ last)
    (apart' : holder ≠ staging) {path : Path} (fresh : IsFresh above previousName tree path holder)
    (install : FileError) : Ensures (output.restore path install : Trial _) before fun e after =>
      Outcome above last staging tree (.error e) after := by
  have wayAside := here ▸ hasWay_aside apart way
  have wayAbove := wayAside.anti (List.prefix_append ..)
  unfold restore
  rw [stands.directory, join_backupName fresh]
  refine .bind (rename_ensures (proper_backup fresh) stands.proper wayAside.linkFree wayAbove.linkFree (by simp))
    fun moved moving ⟨_, moves⟩ => ?_
  cases moved with
  | error e =>
    -- The holder stays: all that is left of the old output is in it.
    rw [here] at moves
    refine .pure ⟨holder, apart', by simp, fresh.front, fresh.unused, fun _ rest => ?_,
      fun other outside _ outside' => ?_, fun other inside => ?_⟩
    · rw [moves, aside_backup apart]
    · rw [moves, aside_other apart outside outside']
    · rw [moves, aside_last apart inside]
  | ok _ =>
    have restored (other : Place) (outside : ¬ above ++ [holder] <+: other) :
        moving.world.tree.at? other = tree.at? other := by
      rw [moves.2.2, here, at?_restored apart outside]
    refine .bind (removeTree_fresh rooted (by simp) fresh (way.congr fun other front =>
      restored other (not_prefix_above front))) fun _ removing ⟨outside, inside, _⟩ => .pure fun other _ => ?_
    by_cases below : above ++ [holder] <+: other
    · exact inside other below
    · exact .of_eq ((outside other below).trans (restored other below))

/-- The new output is moved into its place. -/
theorem at?_installed (apart : last ≠ staging) (rest : Place) :
    (tree.move (above ++ [staging] ++ ["out"]) (above ++ [last])).at? (above ++ last :: rest) =
      tree.at? (above ++ staging :: "out" :: rest) := by
  rw [at?_move (by simp) (by simp) (by simp [apart]), if_pos (by simp)]
  simp

theorem at?_installed_other (apart : last ≠ staging) (outside : ¬ above ++ [last] <+: other)
    (outside' : ¬ above ++ [staging] <+: other) :
    (tree.move (above ++ [staging] ++ ["out"]) (above ++ [last])).at? other = tree.at? other := by
  rw [at?_move (by simp) (by simp) (by simp [apart]), if_neg outside, if_neg]
  exact fun below => outside' ((List.prefix_append ..).trans below)

theorem install_ensures (stands : output.Stands above last) (properStaging : ∀ other ∈ above ++ [staging], IsName other)
    (free : before.world.tree.LinkFree (above ++ [staging])) :
    Ensures (Host.rename (pathOf (above ++ [staging] ++ ["out"])) output.directory : Trial _) before fun result after =>
      match result with
      | .ok () => last ≠ staging ∧
        after.world.tree = before.world.tree.move (above ++ [staging] ++ ["out"]) (above ++ [last])
      | .error _ => after.world.tree = before.world.tree := by
  have properOut : ∀ other ∈ above ++ [staging] ++ ["out"], IsName other :=
    isName_concat properStaging isName_out
  rw [stands.directory]
  refine (rename_ensures properOut stands.proper free (free.anti (List.prefix_append ..)) (by simp)).mono
    fun result after ⟨_, moves⟩ => ?_
  cases result with
  | error e => exact moves
  | ok _ =>
    obtain ⟨_, outOf, moves⟩ := moves
    refine ⟨?_, moves⟩
    rintro rfl
    exact outOf (List.prefix_append ..)

/-- The old output is removed where the new one is in its place. -/
theorem clear_ensures (rooted : Rooted above tree) (way : tree.HasWay above) (apart : holder ≠ last)
    (apart' : holder ≠ staging) (apart'' : last ≠ staging) {path : Path}
    (fresh : IsFresh above previousName tree path holder)
    (here : before.world.tree =
      (aside above last holder tree).move (above ++ [staging] ++ ["out"]) (above ++ [last])) :
    Ensures (Host.removeTree path) before fun _ after => Outcome above last staging tree (.ok ()) after ∧
      ∀ rest, after.world.tree.at? (above ++ last :: rest) = tree.at? (above ++ staging :: "out" :: rest) := by
  have installed (other : Place) (outside : ¬ above ++ [last] <+: other) (outside' : ¬ above ++ [staging] <+: other)
      (outside'' : ¬ above ++ [holder] <+: other) : before.world.tree.at? other = tree.at? other := by
    rw [here, at?_installed_other apart'' outside outside', aside_other apart outside outside'']
  have wayAbove : before.world.tree.HasWay above := way.congr fun other front =>
    installed other (not_prefix_above front) (not_prefix_above front) (not_prefix_above front)
  refine (removeTree_fresh rooted (by simp) fresh wayAbove).mono fun _ after ⟨outside, inside, _⟩ =>
    ⟨⟨apart'', fun other outLast outStaging => ?_⟩, fun rest => ?_⟩
  · by_cases below : above ++ [holder] <+: other
    · exact inside other below
    · exact .of_eq ((outside other below).trans (installed other outLast outStaging below))
  · rw [outside _ (by simpa using apart), here, at?_installed apart'', aside_other apart (by simpa using apart'')
      (by simpa using apart')]

/-- The output may have the name of the directory that the new one is made in. Then that has been moved aside. -/
theorem linkFree_aside (way : tree.HasWay above) (apart : holder ≠ last) (apart' : holder ≠ staging)
    (made : tree.at? (above ++ [staging]) = some .directory) :
    (aside above last holder tree).LinkFree (above ++ [staging]) := by
  refine ((hasWay_aside apart way).anti (List.prefix_append ..)).linkFree.append fun target found => ?_
  by_cases same : last = staging
  · rw [← same, aside_last apart List.prefix_rfl] at found
    cases found
  · rw [aside_other apart (by simpa using same) (by simpa using apart'), made] at found
    cases found

theorem swap_ensures (stands : output.Stands above last) (here : before.world.tree = tree)
    (way : tree.HasWay above) (rooted : Rooted above tree) (properStaging : ∀ other ∈ above ++ [staging], IsName other)
    (made : tree.at? (above ++ [staging]) = some .directory) :
    Ensures (output.swap (pathOf (above ++ [staging] ++ ["out"])) : Trial _) before fun result after =>
      Outcome above last staging tree result after ∧
        (result = .ok () → ∀ rest, after.world.tree.at? (above ++ last :: rest) =
          tree.at? (above ++ staging :: "out" :: rest)) := by
  unfold swap
  refine .bind (moveAside_ensures stands here way rooted) fun moved moving aside => ?_
  match moved with
  | .error e => exact .pure ⟨fun other _ => aside other, by simp⟩
  | .ok none =>
    -- The answer may be wrong. What stands there then makes the move fail, or is an empty directory.
    have free : moving.world.tree.LinkFree (above ++ [staging]) := aside ▸ (way.append made).linkFree
    refine .bind (install_ensures stands properStaging free) fun installed installing moves => ?_
    rw [aside] at moves
    cases installed with
    | error e => exact .pure ⟨fun other _ => .of_eq (by rw [moves]), by simp⟩
    | ok _ =>
      obtain ⟨apart, moves⟩ := moves
      refine .pure ⟨⟨apart, fun other outside outside' => .of_eq ?_⟩, fun _ rest => ?_⟩
      · rw [moves, at?_installed_other apart outside outside']
      · rw [moves, at?_installed apart]
  | .ok (some path) =>
    obtain ⟨holder, apart, fresh, aside⟩ := aside
    have apart' : holder ≠ staging := by
      rintro rfl
      rw [fresh.unused] at made
      cases made
    have free : moving.world.tree.LinkFree (above ++ [staging]) := aside ▸ linkFree_aside way apart apart' made
    refine .bind (install_ensures stands properStaging free) fun installed installing moves => ?_
    rw [aside] at moves
    cases installed with
    | error e =>
      exact .bind (restore_ensures stands moves way rooted apart apart' fresh e) fun _ _ restored =>
        .pure ⟨restored, by simp⟩
    | ok _ =>
      obtain ⟨apart'', moves⟩ := moves
      exact .bind (clear_ensures rooted way apart apart' apart'' fresh moves) fun _ _ ⟨outcome, same⟩ =>
        .pure ⟨outcome, fun _ => same⟩

end Output

end Bundler
