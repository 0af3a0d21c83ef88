import Bundler.Proofs.Build.Moves
import Bundler.Proofs.Build.Related

/-!
Writing a bundle leaves all of the old output or none of it, whichever calls fail on the way.
-/

namespace Bundler

namespace Output

open FileTree Bundler.Path Trial

variable {output : Output} {above : Place} {last staging : String} {tree : FileTree} {before after : Tried}
  {other : Place} {bundle : String}

section Smooth

theorem follows_related : Host.RelatedWrites (m := Trial) (n := Session) fun _ work smooth => Follows work smooth where
  pure := .pure
  bind := .bind
  log _ _ _ _ := ⟨_, rfl⟩
  isPresent _ _ _ _ := ⟨_, rfl⟩
  createDirs _ := .attempt _ _
  createFreshDir _ _ := .attempt _ _
  writeText _ _ := .attempt _ _
  rename := .rename
  removeTree _ _ _ _ := ⟨_, rfl⟩

theorem moveAside_follows : Follows output.moveAside output.moveAside := moveAside_related follows_related output

theorem swap_follows (staged : Path) : Follows (output.swap staged) (output.swap staged) :=
  swap_related follows_related output staged

/-- Where no call is made to fail a bundle is written as ever. -/
theorem emit_follows (graph : ModuleGraph) (root : Path) :
    Follows (output.emit graph root) (output.emit graph root) := emit_related follows_related output graph root

end Smooth

section Agreement

variable {tree' : FileTree} (agree : ∀ other, ¬ above ++ [staging] <+: other → tree'.at? other = tree.at? other)
  (made : tree'.at? (above ++ [staging]) ≠ none)

include made

theorem apart_of_unused {name : String} (unused : tree'.at? (above ++ [name]) = none) :
    ¬ above ++ [staging] <+: above ++ [name] := by
  intro below
  obtain rfl : staging = name := by simpa using below
  exact made unused

include agree

theorem Rooted.of_agree (rooted : Rooted above tree) : Rooted above tree' := by
  intro name rest unused
  have apart := apart_of_unused made unused
  rw [agree _ (by simpa using apart)]
  exact rooted name rest (agree _ apart ▸ unused)

theorem SameAt.of_agree (outside : ¬ above ++ [staging] <+: other) (same : SameAt above tree' after other) :
    SameAt above tree after other := by
  rcases same with same | ⟨unused, start, known, name, front, fresh, below, spared⟩
  · exact .inl (same.trans (agree other outside))
  · have apart := apart_of_unused made fresh
    exact .inr ⟨agree other outside ▸ unused, start, known, name, front, agree _ apart ▸ fresh, below, spared⟩

/-- The outcome does not depend on what is below the directory that the new output is made in. -/
theorem Outcome.of_agree {result : Except WriteError Unit} (outcome : Outcome above last staging tree' result after) :
    Outcome above last staging tree result after := by
  match result with
  | .ok () =>
    exact ⟨outcome.1, fun other outside outside' => .of_agree agree made outside' (outcome.2 other outside outside')⟩
  | .error (.file _) => exact fun other outside => .of_agree agree made outside (outcome other outside)
  | .error (.stranded _ kept _) =>
    obtain ⟨holder, apart, path, front, unused, backup, others, gone⟩ := outcome
    refine ⟨holder, apart, path, front, agree _ (apart_of_unused made unused) ▸ unused, fun apart rest => ?_,
      fun other outside outside' outside'' => ?_, gone⟩
    · rw [backup apart, agree _ (by simpa using apart.symm)]
    · rw [others other outside outside' outside'', agree other outside']

end Agreement

/-- Whether there is a directory with a text in a file, and nothing else. -/
def Holds (tree : FileTree) (place : Place) (filename bundle : String) : Prop :=
  tree.at? place = some .directory ∧ tree.at? (place ++ [filename]) = some (.file (.text bundle)) ∧
    ∀ rest, rest ≠ [] → rest ≠ [filename] → tree.at? (place ++ rest) = none

theorem Holds.congr {tree' : FileTree} {place place' : Place} {filename : String}
    (holds : Holds tree place filename bundle)
    (same : ∀ rest, tree'.at? (place' ++ rest) = tree.at? (place ++ rest)) : Holds tree' place' filename bundle := by
  refine ⟨?_, (same _).trans holds.2.1, fun rest some apart => (same rest).trans (holds.2.2 rest some apart)⟩
  have root := same []
  rw [List.append_nil, List.append_nil] at root
  exact root.trans holds.1

/-- What stands at the place or below it is the directory or its file. -/
theorem Holds.of_at? {filename : String} {place rest : Place} {item : Item} (holds : Holds tree place filename bundle)
    (found : tree.at? (place ++ rest) = some item) :
    rest = [] ∧ item = .directory ∨ rest = [filename] ∧ item = .file (.text bundle) := by
  obtain ⟨directory, file, nothing⟩ := holds
  by_cases top : rest = []
  · rw [top, List.append_nil, directory] at found
    exact .inl ⟨top, (Option.some.inj found).symm⟩
  by_cases held : rest = [filename]
  · rw [held, file] at found
    exact .inr ⟨held, (Option.some.inj found).symm⟩
  · rw [nothing rest top held] at found
    cases found

section Staging

variable {tree' : FileTree} {filename : String} (made : tree.HasWay (above ++ [staging]))
  (bare : ∀ name rest, tree.at? (above ++ staging :: name :: rest) = none)
  (grown : GrownTo (above ++ [staging] ++ ["out"]) tree tree')

include grown

include made in
theorem at?_grown_outside (outside : ¬ above ++ [staging] <+: other) : tree'.at? other = tree.at? other := by
  rcases grown other with same | ⟨unused, _, front⟩
  · exact same
  · rcases List.prefix_concat_iff.mp front with rfl | front
    · exact absurd (List.prefix_append ..) outside
    · rw [made other front] at unused
      cases unused

include bare in
theorem at?_grown_inside (name : String) (rest : Place) :
    tree'.at? (above ++ [staging] ++ ["out"] ++ name :: rest) = none := by
  rcases grown (above ++ [staging] ++ ["out"] ++ name :: rest) with same | ⟨_, _, front⟩
  · rw [same]
    simpa using bare "out" (name :: rest)
  · exact absurd front.length_le (by simp)

include made in
theorem at?_spilled_outside {item : Item} (outside : ¬ above ++ [staging] <+: other) :
    (tree'.put (above ++ [staging] ++ ["out"] ++ [filename]) item).at? other = tree.at? other := by
  rw [at?_put (by simp), if_neg, at?_grown_outside made grown outside]
  rintro rfl
  exact outside (by simp)

include bare in
theorem holds_put (wayOut : tree'.HasWay (above ++ [staging] ++ ["out"])) :
    Holds (tree'.put (above ++ [staging] ++ ["out"] ++ [filename]) (.file (.text bundle)))
      (above ++ [staging] ++ ["out"]) filename bundle := by
  refine ⟨?_, by rw [at?_put (by simp), if_pos rfl], fun rest some apart => ?_⟩
  · rw [at?_put (by simp), if_neg (by simp), wayOut _ List.prefix_rfl]
  · obtain ⟨name, rest, rfl⟩ := List.exists_cons_of_ne_nil some
    rw [at?_put (by simp), if_neg (fun same => apart (List.append_cancel_left same)), at?_grown_inside bare grown]

end Staging

theorem stage_ensures (stands : output.Stands above last) (here : before.world.tree = tree)
    (made : tree.HasWay (above ++ [staging])) (rooted : Rooted above tree)
    (proper : ∀ other ∈ above ++ [staging], IsName other)
    (bare : ∀ name rest, tree.at? (above ++ staging :: name :: rest) = none) (piece : IsPiece output.filename) :
    Ensures (output.stage (pathOf (above ++ [staging])) bundle : Trial _) before fun result after =>
      Outcome above last staging tree result after ∧
        (result = .ok () → Holds after.world.tree (above ++ [last]) output.filename bundle) := by
  have properOut : ∀ other ∈ above ++ [staging] ++ ["out"], IsName other :=
    isName_concat proper isName_out
  have freeOut : tree.LinkFree (above ++ [staging] ++ ["out"]) := made.linkFree.append fun target found => by
    have none := bare "out" []
    rw [List.append_assoc, List.singleton_append, none] at found
    cases found
  unfold stage
  rw [join_pathOf proper (isPiece_of_isName isName_out)]
  refine .bind (createDirs_ensures properOut (here ▸ freeOut)) fun madeDirs making ⟨grown, _⟩ => ?_
  rw [here] at grown
  cases madeDirs with
  | error e => exact .pure ⟨fun other outside => .of_eq (at?_grown_outside made grown outside), by simp⟩
  | ok _ =>
    dsimp only
    rw [join_pathOf properOut piece]
    refine .bind (writeText_ensures properOut piece (grown.linkFree freeOut) (at?_grown_inside bare grown _ []))
      fun wrote writing ⟨_, writes⟩ => ?_
    cases wrote with
    | error e =>
      refine .pure ⟨fun other outside => .of_eq ?_, by simp⟩
      rcases writes with same | ⟨content, same⟩
      · rw [same, at?_grown_outside made grown outside]
      · rw [same, at?_spilled_outside made grown outside]
    | ok _ =>
      obtain ⟨wayOut, same⟩ := writes
      have agree (other : Place) (outside : ¬ above ++ [staging] <+: other) :
          writing.world.tree.at? other = tree.at? other := by
        rw [same, at?_spilled_outside made grown outside]
      have still : writing.world.tree.at? (above ++ [staging]) = some .directory := by
        rw [same, at?_put (by simp), if_neg (by simp), grown.keeps (made _ List.prefix_rfl)]
      have way : writing.world.tree.HasWay above := (made.anti (List.prefix_append ..)).congr fun other front =>
        agree other (not_prefix_above front)
      refine (swap_ensures stands rfl way (rooted.of_agree agree (by simp [still])) proper still).mono
        fun result after ⟨outcome, installed⟩ => ⟨outcome.of_agree agree (by simp [still]), fun fine => ?_⟩
      have holds : Holds writing.world.tree (above ++ [staging] ++ ["out"]) output.filename bundle :=
        same ▸ holds_put bare grown wayOut
      exact holds.congr fun rest => by simpa using installed fine rest

/-- What has become of a tree in the end. -/
def Settled (above : Place) (last : String) (tree : FileTree) (result : Except WriteError Unit)
    (after : Tried) : Prop :=
  match result with
  | .ok () => ∀ other, ¬ above ++ [last] <+: other → SameAt above tree after other
  | .error (.file _) => ∀ other, SameAt above tree after other
  | .error (.stranded _ kept _) => ∃ holder, kept = pathOf (above ++ [holder, backupName]) ∧
    previousName.toList <+: holder.toList ∧ tree.at? (above ++ [holder]) = none ∧
    (∀ rest item, tree.at? (above ++ last :: rest) = some item →
      after.world.tree.at? (above ++ holder :: backupName :: rest) = some item) ∧
    (∀ other, ¬ above ++ [last] <+: other → ¬ above ++ [holder] <+: other → SameAt above tree after other) ∧
    ∀ other, above ++ [last] <+: other →
      after.world.tree.at? other = none ∨ LeftOver above tree after.spared other

theorem Settled.of_unchanged {e : FileError} (same : after.world.tree = tree) :
    Settled above last tree (.error (.file e)) after := fun _ => .of_eq (by rw [same])

theorem LeftOver.mono {spared spared' : List Path} (left : LeftOver above tree spared other) (more : spared ⊆ spared') :
    LeftOver above tree spared' other := by
  obtain ⟨start, known, name, front, fresh, below, member⟩ := left
  exact ⟨start, known, name, front, fresh, below, more member⟩

theorem SameAt.mono {middle : Tried} (same : SameAt above tree middle other)
    (onward : after.world.tree.at? other = middle.world.tree.at? other) (more : middle.spared ⊆ after.spared) :
    SameAt above tree after other := by
  rcases same with same | ⟨unused, left⟩
  · exact .inl (onward.trans same)
  · exact .inr ⟨unused, left.mono more⟩

theorem Outcome.hasWay {result : Except WriteError Unit} (outcome : Outcome above last staging tree result after)
    (way : tree.HasWay above) : after.world.tree.HasWay above := by
  refine way.congr fun other front => ?_
  have same (there : SameAt above tree after other) : after.world.tree.at? other = tree.at? other := by
    rcases there with same | ⟨unused, _⟩
    · exact same
    · rw [way other front] at unused
      cases unused
  match result with
  | .ok () => exact same (outcome.2 other (not_prefix_above front) (not_prefix_above front))
  | .error (.file _) => exact same (outcome other (not_prefix_above front))
  | .error (.stranded _ kept _) =>
    obtain ⟨_, _, _, _, _, _, others, _⟩ := outcome
    exact others other (not_prefix_above front) (not_prefix_above front) (not_prefix_above front)

/-- An outcome is settled when the directory that the new output was made in has been removed, or not. -/
theorem Outcome.settled {result : Except WriteError Unit} {middle : Tried} (rooted : Rooted above tree)
    (unused : tree.at? (above ++ [staging]) = none) (outcome : Outcome above last staging tree result middle)
    (outside : ∀ other, ¬ above ++ [staging] <+: other → after.world.tree.at? other = middle.world.tree.at? other)
    (inside : ∀ other, above ++ [staging] <+: other → SameAt above tree after other)
    (more : middle.spared ⊆ after.spared) : Settled above last tree result after := by
  have everywhere {other : Place} (same : ¬ above ++ [staging] <+: other → SameAt above tree middle other) :
      SameAt above tree after other := by
    by_cases below : above ++ [staging] <+: other
    · exact inside other below
    · exact (same below).mono (outside other below) more
  match result with
  | .ok () => exact fun other outside' => everywhere (outcome.2 other outside')
  | .error (.file _) => exact fun other => everywhere (outcome other)
  | .error (.stranded _ kept _) =>
    obtain ⟨holder, apart, path, front, unused', backup, others, gone⟩ := outcome
    refine ⟨holder, path, front, unused', fun rest item found => ?_, fun other outside' outside'' => ?_,
      fun other below => ?_⟩
    · have apart' : last ≠ staging := by
        rintro rfl
        rw [rooted _ rest unused] at found
        cases found
      rw [outside _ (by simpa using apart.symm), backup apart', found]
    · exact everywhere fun outside => .of_eq (others other outside' outside outside'')
    · by_cases below' : above ++ [staging] <+: other
      · rcases inside other below' with same | ⟨_, left⟩
        · obtain ⟨rest, rfl⟩ := below'
          exact .inl (same.trans (by simpa using rooted staging rest unused))
        · exact .inr left
      · exact .inl ((outside other below').trans (gone other below))

/-- Directories that were made on the way end at `above`, so a name that is unused in it has nothing below it. -/
theorem Rooted.of_grown {old : FileTree} (grounded : old.Grounded) (grown : GrownTo above old tree) :
    Rooted above tree := by
  intro name rest unused
  rw [grown.beyond] at unused ⊢
  simpa using grounded.below unused rest

theorem write_ensures (stands : output.Stands above last) (piece : IsPiece output.filename)
    (free : before.world.tree.LinkFree above) (grounded : before.world.tree.Grounded) :
    Ensures (output.write bundle : Trial _) before fun result after => ∃ tree,
      GrownTo above before.world.tree tree ∧ Rooted above tree ∧ Settled above last tree result after ∧
        (result = .ok () → Holds after.world.tree (above ++ [last]) output.filename bundle ∧ tree.HasWay above) := by
  unfold write
  rw [stands.parent]
  refine .bind (createDirs_ensures stands.isName_above free) fun madeDirs making ⟨grown, _⟩ => ?_
  have rooted : Rooted above making.world.tree := .of_grown grounded grown
  cases madeDirs with
  | error e => exact .pure ⟨_, grown, rooted, .of_unchanged rfl, by simp⟩
  | ok _ =>
    dsimp only
    refine .bind (createFreshDir_ensures stands.isName_above isName_stagingName (grown.linkFree free))
      fun made staged ⟨_, new⟩ => ?_
    cases made with
    | error e => exact .pure ⟨_, grown, rooted, .of_unchanged new, by simp⟩
    | ok path =>
      obtain ⟨staging, fresh, same⟩ := new
      have standing : staged.world.tree.at? (above ++ [staging]) = some .directory := by
        rw [same, at?_put (by simp), if_pos rfl]
      have agree (other : Place) (outside : ¬ above ++ [staging] <+: other) :
          staged.world.tree.at? other = making.world.tree.at? other := by
        rw [same, at?_put (by simp), if_neg]
        rintro rfl
        exact outside List.prefix_rfl
      have bare (name : String) (rest : Place) : staged.world.tree.at? (above ++ staging :: name :: rest) = none := by
        rw [same, at?_put (by simp), if_neg (by simp)]
        exact rooted staging (name :: rest) fresh.unused
      have wayStaged : staged.world.tree.HasWay above := fresh.way.congr fun other front =>
        agree other (not_prefix_above front)
      dsimp only
      rw [fresh.path]
      refine .bind (stage_ensures stands rfl (wayStaged.append standing) (rooted.of_agree agree (by simp [standing]))
        fresh.proper bare piece) fun result swapped ⟨outcome, holds⟩ => ?_
      have known : stagingName ∈ [stagingName, previousName] := by simp
      refine .bind (removeTree_fresh rooted known (fresh.path ▸ fresh) (outcome.hasWay wayStaged))
        fun _ removed ⟨outside, inside, more⟩ => .pure ⟨_, grown, rooted, ?_, fun fine => ?_⟩
      · exact (outcome.of_agree agree (by simp [standing])).settled rooted fresh.unused outside inside more
      · subst fine
        refine ⟨(holds rfl).congr fun rest => outside _ ?_, fresh.way⟩
        simpa using Ne.symm outcome.1

theorem check_ne_write {root : Path} {e : EmitError} (refused : output.check root = .error e) (directory : Path)
    (problem : WriteError) : e ≠ .write directory problem := by
  rintro rfl
  unfold check at refused
  split at refused
  · cases refused
  · split at refused
    · cases refused
    · split at refused <;> cases refused

theorem check_eq_ok {root : Path} (allowed : output.check root = .ok ()) :
    IsPiece output.filename ∧ output.directory.parent? ≠ none := by
  unfold check at allowed
  split at allowed
  · cases allowed
  · next plain =>
    split at allowed
    · cases allowed
    · next below =>
      simp only [not_or, List.any_eq_true, not_exists, not_and] at plain
      exact ⟨⟨plain.1, fun member => plain.2 _ member (by simp)⟩, by simpa using below⟩

theorem check_ok {root : Path} (some : output.filename ≠ "")
    (plain : ∀ c ∈ output.filename.toList, c ≠ '/' ∧ c ≠ '\\') (stands : output.Stands above last)
    (outside : ¬ above ++ [last] <+: root.normalize.parts) : output.check root = .ok () := by
  have parts : output.directory.parts = above ++ [last] := by
    rw [stands.directory]
    exact parts_ofParts fun name member => (stands.proper name member).1
  have up : output.directory.parent?.isNone = false := by
    rw [stands.directory, parent?_pathOf stands.proper, if_neg (by simp)]
    rfl
  have apart : root.normalize.startsWith output.directory = false := by
    rw [startsWith, parts, isPrefixOf_eq_false outside, Bool.and_false]
  have named : ¬ (output.filename = "" ∨ output.filename.toList.any (fun c => c = '/' || c = '\\')) := by
    simpa [some] using plain
  unfold check
  rw [if_neg named, up, apart]
  rfl

/-- What was there before directories were made on the way still is. -/
theorem SameAt.keeps {old : FileTree} (grown : GrownTo above old tree) (same : SameAt above tree after other)
    {item : Item} (found : old.at? other = some item) : after.world.tree.at? other = some item := by
  have stays := grown.keeps found
  rcases same with same | ⟨unused, _⟩
  · exact same.trans stays
  · rw [stays] at unused
    cases unused

/-- What is new where nothing has been put is on the way, or left over. -/
theorem SameAt.new {old : FileTree} (grown : GrownTo above old tree) (same : SameAt above tree after other)
    {item : Item} (unused : old.at? other = none) (found : after.world.tree.at? other = some item) :
    other <+: above ∧ item = .directory ∨ LeftOver above tree after.spared other := by
  rcases same with same | ⟨_, left⟩
  · rcases grown other with same' | ⟨_, made, front⟩
    · rw [same, same', unused] at found
      cases found
    · rw [same, made] at found
      exact .inl ⟨front, (Option.some.inj found).symm⟩
  · exact .inr left

/-- What is new is the output, or in the directory that an error names, or on the way, or left over. -/
theorem Settled.new {old : FileTree} {written : Except WriteError Unit} (grown : GrownTo above old tree)
    (settled : Settled above last tree written after) {item : Item} (unused : old.at? other = none)
    (found : after.world.tree.at? other = some item) :
    written = .ok () ∧ above ++ [last] <+: other ∨
    (∃ holder, previousName.toList <+: holder.toList ∧ above ++ [holder] <+: other ∧ ∃ install restore,
      written = .error (.stranded install (pathOf (above ++ [holder, backupName])) restore)) ∨
    other <+: above ∧ item = .directory ∨ LeftOver above tree after.spared other := by
  match written with
  | .ok () =>
    by_cases below : above ++ [last] <+: other
    · exact .inl ⟨rfl, below⟩
    · exact .inr (.inr ((settled other below).new grown unused found))
  | .error (.file _) => exact .inr (.inr ((settled other).new grown unused found))
  | .error (.stranded _ kept _) =>
    obtain ⟨holder, rfl, front, _, _, others, gone⟩ := settled
    by_cases below : above ++ [last] <+: other
    · rcases gone other below with none | left
      · rw [none] at found
        cases found
      · exact .inr (.inr (.inr left))
    by_cases inside : above ++ [holder] <+: other
    · exact .inr (.inl ⟨holder, front, inside, _, _, rfl⟩)
    · exact .inr (.inr ((others other below inside).new grown unused found))

/-- What writing a bundle over an old tree has come to: nothing is changed, or the output is written or not. -/
def Ended (output : Output) (graph : ModuleGraph) (above : Place) (last : String) (old : FileTree)
    (result : Except EmitError Path) (after : Tried) : Prop :=
  (∃ e, result = .error e ∧ (∀ directory problem, e ≠ .write directory problem) ∧ after.world.tree = old) ∨
  ∃ written tree, GrownTo above old tree ∧ Rooted above tree ∧ Settled above last tree written after ∧
    match written with
    | .ok () => result = .ok output.file ∧
      Holds after.world.tree (above ++ [last]) output.filename (Bundle.render graph) ∧ tree.HasWay above
    | .error e => result = .error (.write output.directory e)

theorem emit_refused_eq {m : Type → Type} [Monad m] [Host m] {root : Path} {e : EmitError}
    (refused : output.check root = .error e) (graph : ModuleGraph) :
    output.emit graph root = (pure (.error e) : m _) := by
  unfold emit
  rw [refused]

theorem emit_refused {root : Path} {e : EmitError} (refused : output.check root = .error e) (graph : ModuleGraph) :
    (output.emit graph root : Trial _).run before = (.error e, before) := by
  rw [emit_refused_eq refused]
  rfl

theorem emit_ensures (stands : output.Stands above last) (piece : IsPiece output.filename)
    (free : before.world.tree.LinkFree above) (grounded : before.world.tree.Grounded) (graph : ModuleGraph)
    (root : Path) : Ensures (output.emit graph root : Trial _) before (Ended output graph above last before.world.tree) := by
  unfold emit
  split
  · next refused => exact .pure (.inl ⟨_, rfl, check_ne_write refused, rfl⟩)
  · exact .pure (.inl ⟨_, rfl, by simp, rfl⟩)
  · dsimp only
    refine .bind (log_ensures _) fun _ logged ⟨sameLogged, _⟩ => ?_
    refine .bind (write_ensures stands piece (sameLogged ▸ free) (sameLogged ▸ grounded)) fun written wrote
      ⟨tree, grown, rooted, settled, holds⟩ => ?_
    rw [sameLogged] at grown
    cases written with
    | error e => exact .pure (.inr ⟨_, tree, grown, rooted, settled, rfl⟩)
    | ok _ =>
      refine .bind (log_ensures _) fun _ ended ⟨sameEnded, spared⟩ => .pure (.inr ⟨.ok (), tree, grown, rooted,
        fun other outside => ?_, rfl, sameEnded ▸ holds rfl⟩)
      exact (settled other outside).mono (by rw [sameEnded]) (spared ▸ List.Subset.refl _)

theorem emit_moves (stands : output.Stands above last) (graph : ModuleGraph) (root : Path) :
    Ensures (output.emit graph root : Trial _) before fun result after => ∀ directory install kept restore,
      result = .error (.write directory (.stranded install kept restore)) →
      ∃ name, stagingName.toList <+: name.toList ∧ after.moves = before.moves ++
        [⟨output.directory, kept, .ok ()⟩, ⟨pathOf (above ++ [name, "out"]), output.directory, .error install⟩,
          ⟨kept, output.directory, .error restore⟩] := by
  unfold emit
  split
  · next refused =>
    exact .pure fun _ _ _ _ failed => absurd (Except.error.inj failed) (check_ne_write refused _ _)
  · exact .pure nofun
  · dsimp only
    refine .bind (log_moves _) fun _ logged same =>
      .bind (write_moves stands) fun written wrote ⟨name, front, told⟩ => ?_
    rw [same] at told
    cases written with
    | ok _ => exact .bind (log_moves _) fun _ _ _ => .pure nofun
    | error e =>
      refine .pure fun directory install kept restore failed => ⟨name, front, told install kept restore ?_⟩
      cases failed
      rfl

section Ended

variable {graph : ModuleGraph} {old : FileTree} {result : Except EmitError Path} {item : Item}
  (ended : Ended output graph above last old result after)

include ended

theorem Ended.ok {file : Path} (fine : result = .ok file) :
    file = output.file ∧ Holds after.world.tree (above ++ [last]) output.filename (Bundle.render graph) ∧
      ∀ other item, ¬ above ++ [last] <+: other → old.at? other = some item →
        after.world.tree.at? other = some item := by
  rcases ended with ⟨e, failed, _⟩ | ⟨written, tree, grown, _, settled, ends⟩
  · cases failed.symm.trans fine
  match written with
  | .error e => cases ends.symm.trans fine
  | .ok () =>
    obtain rfl : output.file = file := Except.ok.inj (ends.1.symm.trans fine)
    exact ⟨rfl, ends.2.1, fun other item outside found => (settled other outside).keeps grown found⟩

theorem Ended.unchanged {e : EmitError} (failed : result = .error e)
    (kept : ∀ directory install kept restore, e ≠ .write directory (.stranded install kept restore))
    (found : old.at? other = some item) : after.world.tree.at? other = some item := by
  rcases ended with ⟨_, _, _, same⟩ | ⟨written, tree, grown, _, settled, ends⟩
  · rwa [same]
  match written with
  | .ok () => cases ends.1.symm.trans failed
  | .error (.file _) => exact (settled other).keeps grown found
  | .error (.stranded _ _ _) => exact absurd (Except.error.inj (failed.symm.trans ends)) (kept _ _ _ _)

/-- What could not be put back is where the error says. -/
theorem Ended.stranded {directory kept : Path} {install restore : FileError}
    (failed : result = .error (.write directory (.stranded install kept restore))) :
    ∃ name, previousName.toList <+: name.toList ∧ kept = pathOf (above ++ [name, backupName]) ∧
      (∀ rest item, old.at? (above ++ [last] ++ rest) = some item →
        after.world.tree.at? (above ++ [name, backupName] ++ rest) = some item) ∧
      ∀ other item, ¬ above ++ [last] <+: other → old.at? other = some item →
        after.world.tree.at? other = some item := by
  rcases ended with ⟨_, failed', apart, _⟩ | ⟨written, tree, grown, rooted, settled, ends⟩
  · exact absurd (Except.error.inj (failed'.symm.trans failed)) (apart _ _)
  match written with
  | .ok () => cases ends.1.symm.trans failed
  | .error (.file _) => cases ends.symm.trans failed
  | .error (.stranded _ _ _) =>
    cases ends.symm.trans failed
    obtain ⟨holder, path, front, free, backup, others, _⟩ := settled
    refine ⟨holder, front, path, fun rest item found => ?_, fun other item outside found => ?_⟩
    · rw [List.append_assoc] at found ⊢
      exact backup rest item (grown.keeps found)
    · by_cases below : above ++ [holder] <+: other
      · obtain ⟨rest, rfl⟩ := below
        have stays := grown.keeps found
        rw [List.append_assoc, List.singleton_append, rooted holder rest free] at stays
        cases stays
      · exact (others other outside below).keeps grown found

theorem Ended.new (unused : old.at? other = none) (found : after.world.tree.at? other = some item) :
    other <+: above ∧ item = .directory ∨ (∃ file, result = .ok file) ∧ above ++ [last] <+: other ∨
      ∃ start ∈ [stagingName, previousName], ∃ name, start.toList <+: name.toList ∧ above ++ [name] <+: other ∧
        (pathOf (above ++ [name]) ∈ after.spared ∨ ∃ install restore, result =
          .error (.write output.directory (.stranded install (pathOf (above ++ [name, backupName])) restore))) := by
  rcases ended with ⟨_, _, _, same⟩ | ⟨written, tree, grown, _, settled, ends⟩
  · rw [same, unused] at found
    cases found
  rcases settled.new grown unused found with ⟨rfl, below⟩ | ⟨holder, front, inside, install, restore, rfl⟩ |
    onWay | ⟨start, known, name, front, _, below, spared⟩
  · exact .inr (.inl ⟨⟨_, ends.1⟩, below⟩)
  · exact .inr (.inr ⟨_, by simp, holder, front, inside, .inr ⟨install, restore, ends⟩⟩)
  · exact .inl onWay
  · exact .inr (.inr ⟨start, known, name, front, below, .inl spared⟩)

end Ended

theorem parts_of (directory : Path) (absolute : directory.isAbsolute = true) (filename : String) :
    (∀ name ∈ (Output.of directory filename).directory.parts, IsName name) ∧
      (Output.of directory filename).directory = pathOf (Output.of directory filename).directory.parts := by
  have proper := isName_collapse directory
  have normal : (Output.of directory filename).directory = pathOf (collapse true directory.parts) := by
    rw [Output.of, Path.normalize, absolute]
    rfl
  have parts : (pathOf (collapse true directory.parts)).parts = collapse true directory.parts :=
    parts_ofParts fun name member => (proper name member).1
  rw [normal, parts]
  exact ⟨proper, rfl⟩

theorem stands_of_directory (directory : output.directory = pathOf (above ++ [last]))
    (proper : ∀ name ∈ above ++ [last], IsName name) : output.Stands above last := by
  refine ⟨directory, ?_, proper⟩
  rw [Output.parent, directory, parent?_pathOf proper, if_neg (by simp), List.dropLast_concat]
  simp [pathOf]

/-- What may be written to has a name in a directory. -/
theorem stands_of_check {directory : Path} {filename : String} (absolute : directory.isAbsolute = true) {root : Path}
    (allowed : (Output.of directory filename).check root = .ok ()) :
    ∃ above last, (Output.of directory filename).directory.parts = above ++ [last] ∧
      (Output.of directory filename).Stands above last := by
  obtain ⟨proper, normal⟩ := parts_of directory absolute filename
  generalize (Output.of directory filename).directory.parts = place at proper normal ⊢
  have up := parent?_pathOf proper
  rw [← normal] at up
  have below : place ≠ [] := fun top => (check_eq_ok allowed).2 (up.trans (if_pos top))
  obtain ⟨above, last, rfl⟩ : ∃ above last, place = above ++ [last] :=
    ⟨_, _, (List.dropLast_concat_getLast below).symm⟩
  exact ⟨above, last, rfl, stands_of_directory normal proper⟩

/-- Writing a bundle replaces the output as a whole or not at all, whichever calls fail. An old output that could not be
moved back is where the error says; it was moved there, and neither the new one nor it could be moved into its place. What
is new besides is above the output or could not be removed. -/
theorem emit_all_or_nothing (directory : Path) (filename : String) (graph : ModuleGraph) (root : Path) (world : World)
    (faults : List (Option Fault)) (absolute : directory.isAbsolute = true) (grounded : world.tree.Grounded)
    (real : ∀ above, above <+: directory.normalize.parts → above ≠ directory.normalize.parts →
      ∀ item, world.tree.at? above = some item → item = .directory) :
    let output := Output.of directory filename
    let place := output.directory.parts
    let run := (output.emit graph root : Trial _).run ⟨world, faults, [], []⟩
    let old := world.tree
    let new := run.2.world.tree
    (∀ file, run.1 = .ok file → file = output.file ∧ Holds new place filename (Bundle.render graph) ∧
      ∀ other item, ¬ place <+: other → old.at? other = some item → new.at? other = some item) ∧
    (∀ e, run.1 = .error e → match e with
      | .write _ (.stranded install kept restore) => ∃ name, previousName.toList <+: name.toList ∧
        kept = pathOf (place.dropLast ++ [name, backupName]) ∧
        (∃ staging, stagingName.toList <+: staging.toList ∧ run.2.moves = [⟨output.directory, kept, .ok ()⟩,
          ⟨pathOf (place.dropLast ++ [staging, "out"]), output.directory, .error install⟩,
          ⟨kept, output.directory, .error restore⟩]) ∧
        (∀ rest item, old.at? (place ++ rest) = some item →
          new.at? (place.dropLast ++ [name, backupName] ++ rest) = some item) ∧
        ∀ other item, ¬ place <+: other → old.at? other = some item → new.at? other = some item
      | _ => ∀ other item, old.at? other = some item → new.at? other = some item) ∧
    ∀ other item, old.at? other = none → new.at? other = some item →
      other <+: place ∧ other ≠ place ∧ item = .directory ∨
      (∃ file, run.1 = .ok file) ∧ place <+: other ∨
      ∃ start ∈ [stagingName, previousName], ∃ name, start.toList <+: name.toList ∧
        place.dropLast ++ [name] <+: other ∧ (pathOf (place.dropLast ++ [name]) ∈ run.2.spared ∨
          ∃ install restore, run.1 = .error (.write output.directory
            (.stranded install (pathOf (place.dropLast ++ [name, backupName])) restore))) := by
  intro output place run old new
  cases checked : output.check root with
  | error e =>
    have ends : run = (.error e, ⟨world, faults, [], []⟩) := emit_refused checked graph
    have same : new = old := congrArg (·.2.world.tree) ends
    refine ⟨fun file fine => ?_, fun e' failed => ?_, fun other item unused found => ?_⟩
    · rw [ends] at fine
      cases fine
    · rw [ends] at failed
      obtain rfl : e = e' := Except.error.inj failed
      split
      · exact absurd rfl (check_ne_write checked _ _)
      · exact fun other item found => same ▸ found
    · rw [same, unused] at found
      cases found
  | ok _ =>
    obtain ⟨above, last, split, stands⟩ := stands_of_check absolute checked
    have split : place = above ++ [last] := split
    have free : old.LinkFree above := by
      intro higher front target found
      have apart : higher ≠ place := by
        intro same
        exact absurd front.length_le (by simp [same, split])
      have way : higher <+: place := front.trans ⟨[last], split.symm⟩
      cases real higher way apart _ found
    have ended : Ended output graph above last old run.1 run.2 :=
      emit_ensures stands (check_eq_ok checked).1 free grounded graph root
    have moves : Ensures (output.emit graph root : Trial _) ⟨world, faults, [], []⟩ _ := emit_moves stands graph root
    clear_value place
    subst split
    rw [List.dropLast_concat]
    refine ⟨fun file fine => ended.ok fine, fun e failed => ?_, fun other item unused found => ?_⟩
    · split
      · obtain ⟨name, front, path, kept⟩ := ended.stranded failed
        exact ⟨name, front, path, moves _ _ _ _ failed, kept⟩
      · next unkept => exact fun other item => ended.unchanged failed unkept
    · rcases ended.new unused found with ⟨front, directory⟩ | written | left
      · refine .inl ⟨front.trans (List.prefix_append ..), ?_, directory⟩
        rintro rfl
        exact absurd front.length_le (by simp)
      · exact .inr (.inl written)
      · exact .inr (.inr left)

/-- A project with an old output, and a graph of one module. -/
def built : World where
  tree := ⟨[(["p"], .directory), (["p", "dist"], .directory), (["p", "dist", "old.js"], .file (.text "old"))]⟩
  current := some ["p"]

def lone : ModuleGraph := ⟨⟨"./a.js"⟩, [⟨⟨"./a.js"⟩, ⟨"/p/a.js"⟩, "", []⟩]⟩

/-- Calls of which the two that put something into the place of the output fail. -/
def stuck : List (Option Fault) := List.replicate 7 none ++ List.replicate 2 (some ⟨.busy, 0, none⟩)

/-- The new output is there when all goes well, and the old one is where the error says when it cannot be put back. -/
theorem emit_all_or_nothing_built :
    let run (faults : List (Option Fault)) :=
      ((Output.of ⟨"/p/dist"⟩ "main.js").emit lone ⟨"/p"⟩ : Trial _).run ⟨built, faults, [], []⟩
    ((run []).1 = .ok ⟨"/p/dist/main.js"⟩ ∧
      Holds (run []).2.world.tree ["p", "dist"] "main.js" (Bundle.render lone)) ∧
    ∃ kept name staging, (run stuck).1 = .error (.write ⟨"/p/dist"⟩ (.stranded .busy kept .busy)) ∧
      kept = pathOf ["p", name, "previous"] ∧ (run stuck).2.moves = [⟨⟨"/p/dist"⟩, kept, .ok ()⟩,
        ⟨pathOf ["p", staging, "out"], ⟨"/p/dist"⟩, .error .busy⟩, ⟨kept, ⟨"/p/dist"⟩, .error .busy⟩] ∧
      (run stuck).2.world.tree.at? ["p", name, "previous", "old.js"] = some (.file (.text "old")) := by
  have absolute : (Path.mk "/p/dist").isAbsolute = true := by decide +kernel
  have grounded : built.tree.Grounded := grounded_of_entries (by decide)
  have place : (Output.of ⟨"/p/dist"⟩ "main.js").directory.parts = ["p", "dist"] := by decide +kernel
  have real (above : Place) (front : above <+: (Path.mk "/p/dist").normalize.parts)
      (apart : above ≠ (Path.mk "/p/dist").normalize.parts) (item : Item) (found : built.tree.at? above = some item) :
      item = .directory := by
    have place' : (Path.mk "/p/dist").normalize.parts = ["p", "dist"] := place
    rw [place'] at front apart
    simp only [List.prefix_cons_iff, List.prefix_nil] at front
    rcases front with rfl | ⟨_, rfl, rfl | ⟨_, rfl, rfl⟩⟩
    · cases found
      rfl
    · cases found
      rfl
    · exact absurd rfl apart
  have ok_of {result : Except EmitError Path} {file : Path} (ends : result.toOption = some file) :
      result = .ok file := by
    cases result <;> simp_all [Except.toOption]
  have error_of {result : Except EmitError Path} {e : EmitError}
      (ends : (match result with | .error e => some e | .ok _ => none) = some e) : result = .error e := by
    cases result <;> simp_all
  have whole (faults : List (Option Fault)) :=
    emit_all_or_nothing ⟨"/p/dist"⟩ "main.js" lone ⟨"/p"⟩ built faults absolute grounded real
  dsimp only at whole ⊢
  simp only [place] at whole
  constructor
  · have fine : (((Output.of ⟨"/p/dist"⟩ "main.js").emit lone ⟨"/p"⟩ : Trial _).run ⟨built, [], [], []⟩).1 =
        .ok ⟨"/p/dist/main.js"⟩ := ok_of (by decide +kernel)
    exact ⟨fine, ((whole []).1 _ fine).2.1⟩
  · have failed : (((Output.of ⟨"/p/dist"⟩ "main.js").emit lone ⟨"/p"⟩ : Trial _).run ⟨built, stuck, [], []⟩).1 =
        .error (.write ⟨"/p/dist"⟩ (.stranded .busy ⟨"/p/.packrat-previous-000000/previous"⟩ .busy)) :=
      error_of (by decide +kernel)
    obtain ⟨name, _, kept, ⟨staging, _, moves⟩, backup, _⟩ := (whole stuck).2.1 _ failed
    have directory : (Output.of ⟨"/p/dist"⟩ "main.js").directory = ⟨"/p/dist"⟩ := by decide +kernel
    rw [directory] at moves
    exact ⟨_, name, staging, failed, kept, moves, backup ["old.js"] _ (by decide +kernel)⟩

end Output

end Bundler
