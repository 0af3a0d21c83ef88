import Bundler.Proofs.Build.Writable
import Bundler.Proofs.Host.Leads
import Bundler.Proofs.Host.Reading

/-!
Where a bundle is when it has been written: in the place that the path of its directory leads to, whatever links are on
the way.
-/

namespace Bundler

open FileTree Bundler.Path Session

/-- Whether everything stands in a directory, and the current directory in the place that its names lead to. -/
structure World.Sound (world : World) : Prop where
  grounded : world.tree.Grounded
  standing : world.tree.Standing world.current
  proper : ∀ here, world.current = some here → ∀ name ∈ here, IsName name

theorem World.Sound.extend {world : World} {tree : FileTree} (sound : world.Sound) (grounded : tree.Grounded)
    (more : tree.Extends world.tree) : World.Sound { world with tree } :=
  ⟨grounded, fun here same => more here _ (sound.standing here same), sound.proper⟩

namespace Output

variable {output : Output} {lead : List String} {last name start bundle : String} {world before moved after : World}
  {tree tree' : FileTree} {path base : Path} {origin above place : Place} {left : Nat} {item : Item}

/-- How the directory of an output is named: names lead to the directory that it is in from where its path starts. -/
structure Named (output : Output) (lead : List String) (last : String) : Prop where
  directory : written output.directory = lead ++ [last]
  names : Path.names output.directory.text = lead ++ [last]
  parent : written output.parent = lead ∨ output.directory.isAbsolute = false ∧ lead = [] ∧ written output.parent = ["."]
  absolute : output.parent.isAbsolute = output.directory.isAbsolute
  segment : IsSegment last

/-- What may be written to has a name in a directory. -/
theorem named_of {directory root : Path} {filename : String}
    (allowed : (Output.of directory filename).check root = .ok ()) :
    ∃ lead last, (Output.of directory filename).Named lead last := by
  have some : directory.normalize.parent? ≠ none := (check_eq_ok allowed).2
  obtain ⟨_, parts⟩ := normalize_parts directory
  have proper : ∀ segment ∈ directory.normalize.parts, IsSegment segment := fun _ member => isSegment_of_mem member
  have normal : directory.normalize = ofParts directory.isAbsolute directory.normalize.parts := by
    rw [parts]
    rfl
  rcases List.eq_nil_or_concat directory.normalize.parts with none | ⟨lead, last, split⟩
  · simp [Path.parent?, none] at some
  rw [List.concat_eq_append] at split
  rw [split] at proper normal
  generalize directory.isAbsolute = absolute at normal
  have properLead : ∀ segment ∈ lead, IsSegment segment := fun segment member => proper segment (by simp [member])
  obtain ⟨same, _⟩ := ofParts_parts proper absolute
  obtain ⟨same', _⟩ := ofParts_parts properLead absolute
  have here : (Output.of directory filename).directory = ofParts absolute (lead ++ [last]) := normal
  have up : (Output.of directory filename).parent =
      if (ofParts absolute lead).text = "" then ⟨"."⟩ else ofParts absolute lead := by
    rw [Output.parent, here, parent?_ofParts proper]
  refine ⟨lead, last, ⟨by rw [here, written_ofParts proper], by rw [here, names_ofParts proper (by simp)], ?_, ?_,
    proper last (by simp)⟩⟩
  · rw [up, here, same]
    split
    · next empty =>
      right
      cases absolute with
      | true => simp [ofParts] at empty
      | false =>
        refine ⟨rfl, ?_, rfl⟩
        have nothing := written_ofParts properLead false
        rw [written, empty] at nothing
        exact nothing.symm
    · exact .inl (written_ofParts properLead absolute)
  · rw [up, here, same]
    split
    · next empty =>
      cases absolute with
      | true => simp [ofParts] at empty
      | false => rfl
    · exact same'

theorem Named.file (named : output.Named lead last) (piece : IsPiece output.filename) :
    Path.names output.file.text = lead ++ [last] ++ [output.filename] := by
  rw [Output.file, names_join _ piece, named.directory]

/-- How the path that new directories are made under is written: its names go on from where the path of the output starts
to the directory that the output is in. -/
structure Site (output : Output) (lead : List String) (world : World) (base : Path) (origin : Place) : Prop where
  based : base? world.current output.parent = some base
  absolute : base.isAbsolute = true
  starts : start? world.current output.directory = some origin
  proper : ∀ name ∈ origin, IsName name
  way : world.tree.HasWay origin
  names : written base = origin ++ lead ∨ lead = [] ∧ written base = origin ++ ["."]

theorem site_of_base (named : output.Named lead last) (sound : world.Sound)
    (based : base? world.current output.parent = some base) : ∃ origin, output.Site lead world base origin := by
  by_cases absolute : output.parent.isAbsolute = true
  · have same : output.parent = base := Option.some.inj ((if_pos absolute).symm.trans based)
    have directory := named.absolute ▸ absolute
    refine ⟨[], based, same ▸ absolute, by simp [start?, directory], by simp, sound.grounded.hasWay rfl, .inl ?_⟩
    rcases named.parent with lead | ⟨relative, _⟩
    · exact same ▸ lead
    · rw [directory] at relative
      cases relative
  · obtain ⟨here, current, rfl⟩ := Option.map_eq_some_iff.mp ((if_neg absolute).symm.trans based)
    have proper := sound.proper here current
    have directory : ¬ output.directory.isAbsolute = true := named.absolute ▸ absolute
    have relative : output.parent.text.toList.head? ≠ some '/' := by simpa [isAbsolute] using absolute
    have joined : written ((pathOf here).join output.parent.text) = here ++ written output.parent := by
      have origin : written (pathOf here) = here := written_ofParts (fun name member => (proper name member).1) true
      rw [written_join _ relative, origin]
    refine ⟨here, based, isAbsolute_join (isAbsolute_ofParts here) _, by simp [start?, directory, current], proper,
      sound.grounded.hasWay (sound.standing here current), ?_⟩
    rw [joined]
    rcases named.parent with lead | ⟨_, bare, same⟩
    · exact .inl (by rw [lead])
    · exact .inr ⟨bare, by rw [same]⟩

section Site

variable (site : output.Site lead world base origin)

include site

/-- Where the path of new directories leads, the path of the output leads on. -/
theorem Site.onward (agree : world.tree.Agree tree) (leads : tree.Leads maxLinks [] (written base) left above) :
    tree.HasWay origin ∧ tree.Leads maxLinks origin lead left above := by
  have root : tree.HasWay [] := by
    intro higher front
    rw [List.prefix_nil.mp front]
    rfl
  rcases site.names with same | ⟨rfl, same⟩
  · rw [same] at leads
    exact leads.behind site.proper site.way root agree
  · rw [same] at leads
    obtain ⟨way, onward⟩ := leads.behind site.proper site.way root agree
    cases onward with
    | dot _ onward => exact ⟨way, onward⟩
    | up climbs => exact absurd climbs (by decide)
    | down stays => exact absurd rfl stays
    | link stays => exact absurd rfl stays

theorem Site.start_join (name : String) : start? moved.current (base.join name) = some [] := by
  rw [start?, if_pos (isAbsolute_join site.absolute name)]

end Site

/-- A new directory is made in the one that the path leads to. -/
theorem gives_createFreshDir_site (named : output.Named lead last) (sound : world.Sound) (starting : IsName start)
    (gives : Gives (Host.createFreshDir output.parent start) world path after) :
    ∃ base origin name left above, output.Site lead world base origin ∧ path = base.join name ∧ IsName name ∧
      name.utf8ByteSize ≤ maxName ∧ world.tree.Leads maxLinks [] (written base) left above ∧
      world.tree.at? (above ++ [name]) = none ∧
      after = { world with tree := world.tree.put (above ++ [name]) .directory } := by
  rw [Gives, run_createFreshDir_base] at gives
  cases based : base? world.current output.parent with
  | none =>
    rw [based] at gives
    cases gives
  | some base =>
    obtain ⟨origin, site⟩ := site_of_base named sound based
    obtain ⟨n, makes⟩ : ∃ n, world.tree.makeFreshDir world.current base start = (base.join (start ++ freshEnd n),
      world.tree.makeDir world.current (base.join (start ++ freshEnd n))) := ⟨_, rfl⟩
    have fresh : IsName (start ++ freshEnd n) := isName_append starting (not_mem_freshEnd n)
    generalize start ++ freshEnd n = name at makes fresh
    simp only [based, makes] at gives
    cases made : world.tree.makeDir world.current (base.join name) with
    | error e =>
      rw [made] at gives
      cases gives
    | ok tree =>
      rw [made] at gives
      cases gives
      obtain ⟨place, led, free, rfl⟩ := makeDir_free made
      obtain ⟨_, _, starts, walks⟩ := locate_eq_ok.mp led
      cases (site.start_join name).symm.trans starts
      rw [names_join _ (isPiece_of_isName fresh)] at walks
      obtain ⟨left, above, leads, walks⟩ := leads_of_walk (by simp) walks
      obtain ⟨rfl, short⟩ := (walk_name_iff fresh (by simp)).mp walks
      exact ⟨base, origin, name, left, above, site, rfl, fresh, short, leads, free, rfl⟩

/-- The tree with a new output in a new directory. -/
def staged (above : Place) (staging filename bundle : String) (tree : FileTree) : FileTree :=
  ((tree.put (above ++ [staging]) .directory).put (above ++ [staging] ++ ["out"]) .directory).put
    (above ++ [staging] ++ ["out"] ++ [filename]) (.file (.text bundle))

section Staged

variable {staging filename : String} {other : Place}

theorem staged_other (outside : ¬ above ++ [staging] <+: other) :
    (staged above staging filename bundle tree).at? other = tree.at? other := by
  have apart (rest : Place) : other ≠ above ++ [staging] ++ rest := by
    rintro rfl
    exact outside (List.prefix_append ..)
  have apart' : other ≠ above ++ [staging] := by simpa using apart []
  rw [staged, at?_put (by simp), at?_put (by simp), at?_put (by simp), if_neg, if_neg (apart ["out"]), if_neg apart']
  simpa using apart ["out", filename]

theorem staged_directory : (staged above staging filename bundle tree).at? (above ++ [staging]) = some .directory := by
  rw [staged, at?_put (by simp), at?_put (by simp), at?_put (by simp), if_neg (by simp), if_neg (by simp), if_pos rfl]

variable (grounded : tree.Grounded) (unused : tree.at? (above ++ [staging]) = none)

include grounded unused

theorem staged_extends : (staged above staging filename bundle tree).Extends tree := by
  intro other item found
  rw [staged_other, found]
  rintro ⟨rest, rfl⟩
  rw [grounded.below unused rest] at found
  cases found

theorem staged_holds : Holds (staged above staging filename bundle tree) (above ++ [staging] ++ ["out"]) filename bundle := by
  refine ⟨?_, ?_, fun rest some apart => ?_⟩
  · rw [staged, at?_put (by simp), at?_put (by simp), if_neg (by simp), if_pos rfl]
  · rw [staged, at?_put (by simp), if_pos rfl]
  · rw [staged, at?_put (by simp), at?_put (by simp), at?_put (by simp), if_neg, if_neg (by simpa using some),
      if_neg (by simp), List.append_assoc, List.append_assoc]
    · simpa using grounded.below unused (["out"] ++ rest)
    · exact fun same => apart (List.append_cancel_left same)

theorem staged_grounded (stands : tree.at? above = some .directory) :
    (staged above staging filename bundle tree).Grounded := by
  have first := grounded.put stands unused .directory
  have free (rest : Place) : tree.at? (above ++ [staging] ++ rest) = none := grounded.below unused rest
  have second := first.put (by rw [at?_put (by simp), if_pos rfl])
    (show _ = none by rw [at?_put (by simp), if_neg (by simp), free ["out"]]) .directory
  refine second.put (by rw [at?_put (by simp), if_pos rfl]) ?_ _
  rw [at?_put (by simp), at?_put (by simp), if_neg (by simp), if_neg (by simp), List.append_assoc]
  exact free ["out", filename]

end Staged

theorem text_ne (absolute : path.isAbsolute = true) : path.text ≠ "" := by
  intro empty
  rw [isAbsolute, empty] at absolute
  cases absolute

section Stage

variable {staging : String} {made wrote : World} (site : output.Site lead world base origin)
  (grounded : world.tree.Grounded) (leads : world.tree.Leads maxLinks [] (written base) left above)
  (named : IsName staging) (short : staging.utf8ByteSize ≤ maxName) (unused : world.tree.at? (above ++ [staging]) = none)

include site grounded leads named unused

include short in
/-- What is put into the new directory is put there. -/
theorem gives_createDirs_out (makes : Gives (Host.createDirs ((base.join staging).join "out"))
      { world with tree := world.tree.put (above ++ [staging]) .directory } () made) : made = { world with
        tree := (world.tree.put (above ++ [staging]) .directory).put (above ++ [staging] ++ ["out"]) .directory } := by
  obtain ⟨created, same⟩ := gives_createDirs_iff.mp makes
  dsimp only at created same
  have starts : start? world.current ((base.join staging).join "out") = some [] :=
    if_pos (isAbsolute_join (isAbsolute_join site.absolute _) _)
  have spelled : Path.names ((base.join staging).join "out").text = written base ++ [staging, "out"] := by
    simp [names_join _ (isPiece_of_isName isName_out), written_join_piece _ (isPiece_of_isName named)]
  have stands : (world.tree.put (above ++ [staging]) .directory).at? (above ++ [staging]) = some .directory := by
    rw [at?_put (by simp), if_pos rfl]
  have walks : walk (world.tree.put (above ++ [staging]) .directory) false maxLinks []
      (Path.names ((base.join staging).join "out").text) = .ok (above ++ [staging] ++ ["out"]) := by
    rw [spelled, (leads.mono (.put unused .directory)).walk_append (by simp),
      walk_cons_iff named (by simp) (by simp [stands]), walk_name_iff isName_out (by simp)]
    exact ⟨short, stands, rfl, by decide⟩
  have free : (world.tree.put (above ++ [staging]) .directory).at? (above ++ [staging] ++ ["out"]) = none := by
    rw [at?_put (by simp), if_neg (by simp), grounded.below unused]
  obtain ⟨_, grown⟩ := createDirs_free (text_ne (isAbsolute_join (isAbsolute_join site.absolute _) _)) starts walks free created
  rw [same, grown]

/-- The bundle is put into a file in it, unless the name of the file is none. -/
theorem gives_writeText_out (piece : IsPiece output.filename)
    (writes : Gives (Host.writeText (((base.join staging).join "out").join output.filename) bundle) { world with
      tree := (world.tree.put (above ++ [staging]) .directory).put (above ++ [staging] ++ ["out"]) .directory } () wrote) :
    IsName output.filename ∧ output.filename.utf8ByteSize ≤ maxName ∧ '\x00' ∉ output.filename.toList ∧
      wrote = { world with tree := staged above staging output.filename bundle world.tree } := by
  let tree := (world.tree.put (above ++ [staging]) .directory).put (above ++ [staging] ++ ["out"]) .directory
  have free : (world.tree.put (above ++ [staging]) .directory).at? (above ++ [staging] ++ ["out"]) = none := by
    rw [at?_put (by simp), if_neg (by simp), grounded.below unused]
  have more : tree.Extends world.tree := (Extends.put free _).trans (.put unused _)
  have stands : tree.at? (above ++ [staging]) = some .directory := by
    rw [at?_put (by simp), if_neg (by simp), at?_put (by simp), if_pos rfl]
  have stands' : tree.at? (above ++ [staging] ++ ["out"]) = some .directory := by
    rw [at?_put (by simp), if_pos rfl]
  have starts : start? world.current (((base.join staging).join "out").join output.filename) = some [] :=
    if_pos (isAbsolute_join (isAbsolute_join (isAbsolute_join site.absolute _) _) _)
  have spelled : Path.names (((base.join staging).join "out").join output.filename).text =
      written base ++ [staging, "out", output.filename] := by
    simp [names_join _ piece, written_join_piece _ (isPiece_of_isName isName_out),
      written_join_piece _ (isPiece_of_isName named)]
  have leadsTo (place : Place) : tree.locate world.current true _ = .ok place ↔ _ :=
    (leads.mono more).locate_iff starts spelled (by simp)
  obtain ⟨after, wrote', rfl⟩ := gives_writeText_eq.mp writes
  obtain ⟨place, led, apart, rfl⟩ := writeText_eq_ok.mp wrote'
  obtain ⟨usable, walks⟩ := (leadsTo place).mp led
  obtain ⟨_, _, walks⟩ := (walk_cons_iff named (by simp) (ne_link_of_directory stands)).mp walks
  obtain ⟨_, _, walks⟩ := (walk_cons_iff isName_out (by simp) (ne_link_of_directory stands')).mp walks
  have nothing : tree.at? (above ++ [staging] ++ ["out"] ++ [output.filename]) = none := by
    rw [at?_put (by simp), if_neg (by simp), at?_put (by simp), if_neg (by simp)]
    simpa using grounded.below unused ["out", output.filename]
  by_cases file : IsName output.filename
  · obtain ⟨rfl, short⟩ := (walk_name_iff file fun _ target => by rw [nothing]; simp).mp walks
    exact ⟨file, short, fun zero => usable.1 ((mem_join_iff _ (by decide) piece).mpr (.inr zero)), rfl⟩
  · have first := grounded.put (leads.directory grounded rfl) unused .directory
    have grounded' : tree.Grounded := first.put (by rw [at?_put (by simp), if_pos rfl]) free .directory
    exact absurd (walk_dots piece file (grounded'.hasWay stands') walks) apart

end Stage

theorem Named.isName (named : output.Named lead last) (ends : endsWithName output.directory = true) : IsName last := by
  rw [endsWithName, named.names, List.getLast?_concat] at ends
  simp only [ne_eq, decide_not, Bool.and_eq_true, Bool.not_eq_true', decide_eq_false_iff_not] at ends
  exact ⟨named.segment, ends.2⟩

/-- What stands in the place of the output is moved into a new directory beside it. -/
theorem gives_moveAside_site {holder : Option Path} (named : output.Named lead last) (sound : world.Sound)
    (site : output.Site lead world base origin) (leads : world.tree.Leads maxLinks [] (written base) left above)
    (gives : Gives output.moveAside world holder after) :
    holder = none ∧ after = world ∧ world.tree.isPresent world.current output.directory = false ∨
      ∃ name, holder = some (base.join name) ∧ IsName name ∧ world.tree.at? (above ++ [name]) = none ∧ name ≠ last ∧
        after.tree = aside above last name world.tree ∧
        after.current = (world.current.filter (!(above ++ [name] ++ [backupName]).isPrefixOf ·)).map
          (movedPlace (above ++ [last]) (above ++ [name] ++ [backupName])) := by
  rcases moveAside_cases gives with none | ⟨line, path, made, makes, moves, rfl⟩
  · exact .inl none
  obtain ⟨base', _, name, left', above', site', rfl, fresh, short, leads', unused, rfl⟩ :=
    gives_createFreshDir_site named (show (world.told line).Sound from ⟨sound.1, sound.2, sound.3⟩) isName_previousName makes
  obtain rfl : base = base' := Option.some.inj (site.based.symm.trans site'.based)
  obtain ⟨rfl, rfl, _⟩ := leads'.common leads (.refl _)
  obtain ⟨⟨source, goal⟩, led, rfl⟩ := gives_rename_iff.mp moves
  obtain ⟨sourceLed, goalLed, ends, _, _, _, clear⟩ := route_spec led
  have proper := named.isName ends
  have more : (world.tree.put (above ++ [name]) .directory).Extends world.tree := .put unused _
  have leadsIn := leads.mono more
  have starts : start? world.current ((base.join name).join backupName) = some [] :=
    if_pos (isAbsolute_join (isAbsolute_join site.absolute _) _)
  have spelled : Path.names ((base.join name).join backupName).text = written base ++ [name, backupName] := by
    simp [names_join _ (isPiece_of_isName isName_backupName), written_join_piece _ (isPiece_of_isName fresh)]
  have stands : (world.tree.put (above ++ [name]) .directory).at? (above ++ [name]) = some .directory := by
    rw [at?_put (by simp), if_pos rfl]
  obtain ⟨_, walks⟩ := ((site.onward more.agree leadsIn).2.locate_iff site.starts named.names (by simp)).mp sourceLed
  obtain ⟨rfl, _⟩ := (walk_name_iff proper (by simp)).mp walks
  obtain ⟨_, walks⟩ := (leadsIn.locate_iff starts spelled (by simp)).mp goalLed
  obtain ⟨_, _, walks⟩ := (walk_cons_iff fresh (by simp) (ne_link_of_directory stands)).mp walks
  obtain ⟨rfl, _⟩ := (walk_name_iff isName_backupName (by simp)).mp walks
  have apart : name ≠ last := by
    rintro rfl
    exact absurd ((apart_of_obstacle clear).1 (by simp)) (by simp)
  refine .inr ⟨name, rfl, fresh, unused, apart, ?_, ?_⟩
  · rw [World.move, if_neg (by simp)]
    simp [aside]
  · rw [World.move, if_neg (by simp)]
    rfl

theorem Site.extend (site : output.Site lead world base origin) (more : tree.Extends world.tree) :
    output.Site lead { world with tree } base origin :=
  { site with way := fun higher front => more higher _ (site.way higher front) }

section Moves

/-- A path starts where it did when the current directory has not moved. -/
theorem start?_same {current : Option Place} (starts : start? world.current path = some origin)
    (same : world.current = some origin → current = some origin) : start? current path = some origin := by
  unfold start? at starts ⊢
  split at starts
  · next absolute => rw [if_pos absolute, starts]
  · next relative => rw [if_neg relative, same starts]

theorem start?_move {old new : Place} (starts : start? world.current path = some origin) (apart : ¬ new <+: origin)
    (apart' : ¬ old <+: origin) : start? ((world.current.filter (!new.isPrefixOf ·)).map (movedPlace old new)) path =
      some origin :=
  start?_same starts fun here => by simp [here, movedPlace, Option.filter, apart, apart']

theorem start?_remove (starts : start? world.current path = some origin) (apart : ¬ place <+: origin) :
    start? (world.remove place).current path = some origin :=
  start?_same starts fun here => by simp [World.remove, here, Option.filter, apart]

theorem not_prefix_origin (way : tree.HasWay origin) (free : tree.at? place = none) : ¬ place <+: origin := by
  intro front
  rw [way place front] at free
  cases free

end Moves

/-- What is known of a world in which a new output is about to be moved into its place. -/
structure Cleared (output : Output) (last : String) (origin above : Place) (staging : String) (old new : FileTree)
    (world : World) : Prop where
  agree : old.Agree world.tree
  plain : ∀ target, world.tree.at? (above ++ [staging]) ≠ some (.link target)
  kept : last ≠ staging → ∀ rest, world.tree.at? (above ++ staging :: rest) = new.at? (above ++ staging :: rest)
  starts : world.tree.HasWay origin → start? world.current output.directory = some origin
  free : world.tree.at? (above ++ [last]) = none → ∀ rest, world.tree.at? (above ++ [last] ++ rest) = none
  absent : world.tree.at? (above ++ [last]) = none ∨ world.tree.isPresent world.current output.directory = false

theorem Cleared.of_aside {staging : String} {new : FileTree} (starts : start? world.current output.directory = some origin)
    (way : world.tree.HasWay origin) (more : new.Extends world.tree) (grounded : new.Grounded)
    (made : new.at? (above ++ [staging]) = some .directory) (unused : new.at? (above ++ [name]) = none)
    (apart : name ≠ last) (tree : after.tree = aside above last name new)
    (current : after.current = (world.current.filter (!(above ++ [name] ++ [backupName]).isPrefixOf ·)).map
      (movedPlace (above ++ [last]) (above ++ [name] ++ [backupName]))) :
    output.Cleared last origin above staging world.tree new after := by
  have apart' : name ≠ staging := by
    rintro rfl
    rw [unused] at made
    cases made
  have gone {rest : Place} (inside : above ++ [last] <+: rest) : after.tree.at? rest = none := by
    rw [tree, aside_last apart inside]
  have beyond {rest : Place} (inside : above ++ [name] <+: rest) : new.at? rest = none := by
    obtain ⟨more, rfl⟩ := inside
    exact grounded.below unused more
  refine ⟨fun place item item' found found' => ?_, fun target found => ?_, fun other rest => ?_, fun way' => ?_,
    fun _ rest => gone (List.prefix_append ..), .inl (gone List.prefix_rfl)⟩
  · have there := more _ _ found
    have outside : ¬ above ++ [last] <+: place := fun inside => by
      rw [gone inside] at found'
      cases found'
    have outside' : ¬ above ++ [name] <+: place := fun inside => by
      rw [beyond inside] at there
      cases there
    rw [tree, aside_other apart outside outside', there] at found'
    exact Option.some.inj found'
  · by_cases same : last = staging
    · rw [← same, gone List.prefix_rfl] at found
      cases found
    · rw [tree, aside_other apart (by simpa using same) (by simpa using apart'), made] at found
      cases found
  · rw [tree, aside_other apart (by simpa using other) (by simpa using apart')]
  · rw [current]
    refine start?_move starts (fun front => ?_) (not_prefix_origin way' (gone List.prefix_rfl))
    exact not_prefix_origin (fun _ front => more _ _ (way _ front)) unused ((List.prefix_append ..).trans front)

/-- Moving the old output aside leaves a world in which the new one can be moved into its place. -/
theorem cleared_of_moveAside {staging : String} {holder : Option Path} (named : output.Named lead last)
    (sound : world.Sound) (site : output.Site lead world base origin)
    (leads : world.tree.Leads maxLinks [] (written base) left above) (more : tree.Extends world.tree)
    (grounded : tree.Grounded) (made : tree.at? (above ++ [staging]) = some .directory)
    (moves : Gives output.moveAside { world with tree } holder after) :
    output.Cleared last origin above staging world.tree tree after ∧ ∀ path, holder = some path →
      ∃ name, path = base.join name ∧ IsName name ∧ last ≠ name ∧ world.tree.at? (above ++ [name]) = none := by
  rcases gives_moveAside_site named (sound.extend grounded more) (site.extend more) (leads.mono more) moves with
    ⟨rfl, rfl, absent⟩ | ⟨name, rfl, fresh, unused, apart, same, current⟩
  · exact ⟨⟨more.agree, ne_link_of_directory made, fun _ _ => rfl, fun _ => site.starts,
      fun free rest => grounded.below free rest, .inr absent⟩, nofun⟩
  · refine ⟨.of_aside site.starts site.way more grounded made unused apart same current, ?_⟩
    rintro _ ⟨⟩
    refine ⟨name, rfl, fresh, apart.symm, ?_⟩
    cases found : world.tree.at? (above ++ [name]) with
    | none => rfl
    | some item => exact absurd (unused.symm.trans (more _ _ found)) (by simp)

/-- Where nothing is found there is nothing, or a link that leads nowhere. -/
theorem free_or_link (named : output.Named lead last) (proper : IsName last) (short : last.utf8ByteSize ≤ maxName)
    (usable : Usable output.directory) (leads : world.tree.Leads maxLinks origin lead left above)
    (starts : start? world.current output.directory = some origin)
    (absent : world.tree.isPresent world.current output.directory = false) :
    world.tree.at? (above ++ [last]) = none ∨ ∃ target, world.tree.at? (above ++ [last]) = some (.link target) := by
  cases blocked : world.tree.at? (above ++ [last]) with
  | none => exact .inl rfl
  | some item =>
    by_cases link : ∃ target, item = .link target
    · exact .inr (link.imp fun _ same => by rw [same])
    have walks : walk world.tree true left above [last] = .ok (above ++ [last]) :=
      (walk_name_iff proper fun _ target found => link ⟨target, Option.some.inj (blocked.symm.trans found)⟩).mpr ⟨rfl, short⟩
    have led : world.tree.locate world.current true output.directory = .ok (above ++ [last]) :=
      (leads.locate_iff starts named.names (by simp)).mpr ⟨usable, walks⟩
    simp [isPresent, look, led, blocked, bind, Except.bind, Except.isOk, Except.toBool] at absent

/-- The new output is moved into its place. -/
theorem gives_install_site {staging : String} {new : FileTree} (named : output.Named lead last)
    (site : output.Site lead world base origin) (leads : world.tree.Leads maxLinks [] (written base) left above)
    (staged : IsName staging) (unused : world.tree.at? (above ++ [staging]) = none)
    (out : new.at? (above ++ [staging] ++ ["out"]) = some .directory)
    (cleared : output.Cleared last origin above staging world.tree new moved)
    (gives : Gives (Host.rename ((base.join staging).join "out") output.directory) moved () after) :
    last ≠ staging ∧ IsName last ∧ last.utf8ByteSize ≤ maxName ∧ Usable output.directory ∧
      moved.tree.Leads maxLinks [] (written base) left above ∧ (∀ rest, moved.tree.at? (above ++ [last] ++ rest) = none) ∧
      after.tree = moved.tree.move (above ++ [staging] ++ ["out"]) (above ++ [last]) ∧
      start? after.current output.directory = some origin := by
  obtain ⟨⟨source, goal⟩, led, rfl⟩ := gives_rename_iff.mp gives
  obtain ⟨sourceLed, goalLed, _, ends, item, stands, clear⟩ := route_spec led
  have proper := named.isName ends
  have starts : start? moved.current ((base.join staging).join "out") = some [] :=
    if_pos (isAbsolute_join (isAbsolute_join site.absolute _) _)
  have spelled : Path.names ((base.join staging).join "out").text = written base ++ [staging, "out"] := by
    simp [names_join _ (isPiece_of_isName isName_out), written_join_piece _ (isPiece_of_isName staged)]
  obtain ⟨leads', _, walks⟩ := leads.of_locate cleared.agree starts spelled (by simp) sourceLed
  obtain ⟨_, made, walks⟩ := (walk_cons_iff staged (by simp) cleared.plain).mp walks
  obtain ⟨rfl, _⟩ := (walk_name_iff isName_out (by simp)).mp walks
  obtain ⟨way, onward⟩ := site.onward cleared.agree leads'
  obtain ⟨usable, walks⟩ := (onward.locate_iff (cleared.starts way) named.names (by simp)).mp goalLed
  obtain ⟨rfl, short⟩ := (walk_name_iff proper (by simp)).mp walks
  have apart : last ≠ staging := by
    rintro rfl
    exact absurd ((apart_of_obstacle clear).2 (by simp)) (by simp)
  have directory : moved.tree.at? (above ++ [staging] ++ ["out"]) = some .directory := by
    rw [List.append_assoc, List.singleton_append, cleared.kept apart]
    simpa using out
  have free : moved.tree.at? (above ++ [last]) = none := by
    rcases cleared.absent with free | absent
    · exact free
    rcases free_or_link named proper short usable onward (cleared.starts way) absent with free | ⟨target, blocked⟩
    · exact free
    · -- A directory is not moved over a link.
      obtain rfl := Option.some.inj (directory.symm.trans stands)
      simp [obstacle?, blocked, apart, apart.symm] at clear
  refine ⟨apart, proper, short, usable, leads', cleared.free free, ?_, ?_⟩
  · rw [World.move, if_neg (by simp)]
  · rw [World.move, if_neg (by simp)]
    refine start?_move (cleared.starts way) (not_prefix_origin way free) fun front => ?_
    exact not_prefix_origin site.way unused ((List.prefix_append ..).trans front)

/-- Whether a new output is in its place, in a world with all that two trees have in common. -/
structure Installed (output : Output) (last bundle : String) (origin above : Place) (old new : FileTree) (world : World) :
    Prop where
  common : ∀ other item, old.at? other = some item → new.at? other = some item → world.tree.at? other = some item
  holds : Holds world.tree (above ++ [last]) output.filename bundle
  starts : start? world.current output.directory = some origin

section Installed

variable {old new : FileTree} (grounded : old.Grounded) (way : old.HasWay origin)

include grounded way in
theorem Installed.remove (installed : output.Installed last bundle origin above old new world)
    (apart : last ≠ name) (unused : old.at? (above ++ [name]) = none) :
    output.Installed last bundle origin above old new (world.remove (above ++ [name])) := by
  have stays {other : Place} (outside : ¬ above ++ [name] <+: other) :
      (world.remove (above ++ [name])).tree.at? other = world.tree.at? other := by
    rw [World.remove, at?_drop (by simp), if_neg outside]
  refine ⟨fun other item found found' => ?_, installed.holds.congr fun rest => stays (by simpa using apart.symm), ?_⟩
  · rw [stays, installed.common other item found found']
    rintro ⟨rest, rfl⟩
    rw [grounded.below unused rest] at found
    cases found
  · exact start?_remove installed.starts (not_prefix_origin way unused)

include grounded way in
/-- What is removed at the end is beside the new output. -/
theorem Installed.removeTree (installed : output.Installed last bundle origin above old new world)
    (absolute : base.isAbsolute = true) (leads : old.Leads maxLinks [] (written base) left above)
    (leads' : new.Leads maxLinks [] (written base) left above) (agree : old.Agree new) (named : IsName name)
    (apart : last ≠ name) (unused : old.at? (above ++ [name]) = none) :
    output.Installed last bundle origin above old new ((Host.removeTree (base.join name) : Session Unit).run world).2 := by
  cases led : world.tree.locate world.current false (base.join name) with
  | error e =>
    have nothing : ((Host.removeTree (base.join name) : Session Unit).run world).2 = world := by
      simp only [Host.removeTree, StateT.run_modify, led]
      rfl
    rwa [nothing]
  | ok place =>
    rw [run_removeTree led]
    have starts : start? world.current (base.join name) = some [] := if_pos (isAbsolute_join absolute _)
    have onward := (leads.common leads' agree).2.2 world.tree installed.common
    obtain ⟨_, walks⟩ := (onward.locate_iff starts (names_join base (isPiece_of_isName named)) (by simp)).mp led
    obtain ⟨rfl, _⟩ := (walk_name_iff named (by simp)).mp walks
    exact installed.remove grounded way apart unused

theorem Installed.of_move {staging : String} {built : FileTree} (grounded : old.Grounded)
    (unused : old.at? (above ++ [staging]) = none) (apart : last ≠ staging)
    (free : ∀ rest, moved.tree.at? (above ++ [last] ++ rest) = none)
    (kept : ∀ rest, moved.tree.at? (above ++ staging :: rest) = built.at? (above ++ staging :: rest))
    (holds : Holds built (above ++ [staging] ++ ["out"]) output.filename bundle)
    (same : after.tree = moved.tree.move (above ++ [staging] ++ ["out"]) (above ++ [last]))
    (starts : start? after.current output.directory = some origin) :
    output.Installed last bundle origin above old moved.tree after := by
  refine ⟨fun other item found found' => ?_, holds.congr fun rest => ?_, starts⟩
  · rw [same, at?_installed_other apart, found']
    · rintro ⟨rest, rfl⟩
      rw [free rest] at found'
      cases found'
    · rintro ⟨rest, rfl⟩
      rw [grounded.below unused rest] at found
      cases found
  · have there : (moved.tree.move (above ++ [staging] ++ ["out"]) (above ++ [last])).at? _ = _ := at?_installed apart rest
    rw [same]
    simpa [kept] using there

/-- The bundle of a new output is in the place that the path of the output leads to, and is read by its own path unless
that is too long. -/
theorem Installed.read (installed : output.Installed last bundle origin above old new world)
    (named : output.Named lead last) (proper : IsName last) (short : last.utf8ByteSize ≤ maxName)
    (usable : Usable output.directory) (file : IsName output.filename) (short' : output.filename.utf8ByteSize ≤ maxName)
    (zero : '\x00' ∉ output.filename.toList) (leads : world.tree.Leads maxLinks origin lead left above) :
    world.tree.locate world.current false output.directory = .ok (above ++ [last]) ∧
      (output.file.text.utf8ByteSize ≤ maxPath → world.files output.file = .ok bundle) := by
  obtain ⟨directory, held, _⟩ := installed.holds
  have piece := isPiece_of_isName file
  refine ⟨(leads.locate_iff installed.starts named.names (by simp)).mpr ⟨usable, (walk_name_iff proper (by simp)).mpr
    ⟨rfl, short⟩⟩, fun fits => ?_⟩
  have starts : start? world.current output.file = some origin := by
    have same : output.file.isAbsolute = output.directory.isAbsolute := (join_relative _ (not_head_of_isPiece piece)).1
    rw [start?, same]
    exact installed.starts
  have spelled : Path.names output.file.text = lead ++ [last, output.filename] := by
    rw [named.file piece, List.append_assoc]
    rfl
  have plain (target : String) : world.tree.at? (above ++ [last] ++ [output.filename]) ≠ some (.link target) := by
    rw [held]
    simp
  have usable' : Usable output.file := by
    refine ⟨fun zero' => ?_, fun empty => ?_, fits⟩
    · exact ((mem_join_iff _ (by decide) piece).mp zero').elim usable.1 zero
    · rw [empty] at spelled
      simp [Path.names, Text.pieces] at spelled
  have led : world.tree.locate world.current true output.file = .ok (above ++ [last] ++ [output.filename]) :=
    (leads.locate_iff starts spelled (by simp)).mpr ⟨usable', (walk_cons_iff proper (by simp)
      (ne_link_of_directory directory)).mpr ⟨short, directory, (walk_name_iff file fun _ => plain).mpr ⟨rfl, short'⟩⟩⟩
  simp only [World.files, readText, look, led, held, bind, Except.bind]

end Installed

section Write

theorem gives_write (gives : Gives (output.write bundle) world () after) :
    ∃ made path staged put wrote holder moved installed, Gives (Host.createDirs output.parent) world () made ∧
      Gives (Host.createFreshDir output.parent stagingName) made path staged ∧
      Gives (Host.createDirs (path.join "out")) staged () put ∧
      Gives (Host.writeText ((path.join "out").join output.filename) bundle) put () wrote ∧
      Gives output.moveAside wrote holder moved ∧
      Gives (Host.rename (path.join "out") output.directory) moved () installed ∧
      after = ((Host.removeTree path : Session Unit).run
        (holder.elim installed fun holder => ((Host.removeTree holder : Session Unit).run installed).2)).2 := by
  unfold write at gives
  obtain ⟨_, made, makes, gives⟩ := gives_bind gives not_gives_error
  obtain ⟨path, staged, stages, gives⟩ := gives_bind gives not_gives_error
  rcases ran : (output.stage path bundle : Session _).run staged with ⟨result, placed⟩
  have ends : (result, ((Host.removeTree path : Session Unit).run placed).2) = (.ok (), after) := by
    rw [gives_then, ran] at gives
    exact gives
  obtain ⟨rfl, rfl⟩ := Prod.mk.inj ends
  have gives : Gives (output.stage path bundle) staged () placed := ran
  unfold stage at gives
  obtain ⟨_, put, puts, gives⟩ := gives_bind gives not_gives_error
  obtain ⟨_, wrote, writes, gives⟩ := gives_bind gives not_gives_error
  unfold swap at gives
  obtain ⟨holder, moved, moves, gives⟩ := gives_bind gives not_gives_error
  obtain ⟨_, installed, installs, gives⟩ := gives_bind gives fun {e _ _ _} gives => by
    cases holder with
    | none => exact not_gives_error gives
    | some path => exact not_gives_error (gives_then.mp gives)
  refine ⟨made, path, staged, put, wrote, holder, moved, installed, makes, stages, puts, writes, moves, installs, ?_⟩
  have left : holder.elim installed (fun holder => ((Host.removeTree holder : Session Unit).run installed).2) = placed := by
    cases holder with
    | none => exact congrArg Prod.snd gives
    | some holder => exact congrArg Prod.snd gives
  rw [left]

/-- Where a bundle is when it has been written. -/
def Wrote (output : Output) (bundle : String) (world : World) : Prop :=
  (∃ place, world.tree.locate world.current false output.directory = .ok place ∧
    Holds world.tree place output.filename bundle) ∧
  (output.file.text.utf8ByteSize ≤ maxPath → world.files output.file = .ok bundle)

theorem wrote_of_write (named : output.Named lead last) (piece : IsPiece output.filename) (sound : world.Sound)
    (gives : Gives (output.write bundle) world () after) : output.Wrote bundle after := by
  obtain ⟨made, path, staged, put, wrote, holder, moved, installed, makes, stages, puts, writes, moves, installs, rfl⟩ :=
    gives_write gives
  obtain ⟨created, same⟩ := gives_createDirs_iff.mp makes
  have grew : world.tree.Grew (world.tree.createDirs world.current output.parent).1 :=
    createDirs_grew sound.grounded sound.standing
  rw [created] at grew
  have soundMade : made.Sound := same ▸ sound.extend grew.1 grew.2
  have grounded := soundMade.grounded
  obtain ⟨base, origin, staging, left, above, site, rfl, fresh, short, leads, unused, rfl⟩ :=
    gives_createFreshDir_site named soundMade isName_stagingName stages
  obtain rfl := gives_createDirs_out site grounded leads fresh short unused puts
  obtain ⟨file, shortFile, zero, rfl⟩ := gives_writeText_out site grounded leads fresh unused piece writes
  let built := Output.staged above staging output.filename bundle made.tree
  have more : built.Extends made.tree := staged_extends grounded unused
  have grounded' : built.Grounded := staged_grounded grounded unused (leads.directory grounded rfl)
  have holds : Holds built (above ++ [staging] ++ ["out"]) output.filename bundle := staged_holds grounded unused
  have standing : built.at? (above ++ [staging]) = some .directory := staged_directory
  obtain ⟨cleared, holders⟩ := cleared_of_moveAside named soundMade site leads more grounded' standing moves
  obtain ⟨apart, proper, shortLast, usable, leads', free, shifted, starts⟩ :=
    gives_install_site named site leads fresh unused holds.1 cleared installs
  have placed : output.Installed last bundle origin above made.tree moved.tree installed :=
    .of_move grounded unused apart free (cleared.kept apart) holds shifted starts
  have clears {world : World} {name : String} (placed : output.Installed last bundle origin above made.tree moved.tree world)
      (proper : IsName name) (apart : last ≠ name) (unused : made.tree.at? (above ++ [name]) = none) :=
    placed.removeTree grounded site.way site.absolute leads leads' cleared.agree proper apart unused
  have placed' : output.Installed last bundle origin above made.tree moved.tree
      (holder.elim installed fun holder => ((Host.removeTree holder : Session Unit).run installed).2) := by
    cases holder with
    | none => exact placed
    | some path =>
      obtain ⟨name, rfl, proper', apart', unused'⟩ := holders path rfl
      exact clears placed proper' apart' unused'
  have settled := clears placed' fresh apart unused
  have onward := ((site.onward (.refl _) leads).2.common (site.onward cleared.agree leads').2 cleared.agree).2.2 _
    settled.common
  obtain ⟨led, read⟩ := settled.read named proper shortLast usable file shortFile zero onward
  exact ⟨⟨_, led, settled.holds⟩, read⟩

end Write

end Output

end Bundler
