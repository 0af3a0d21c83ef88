import Bundler.Proofs.Host.Calls

/-!
Ways through links. Names lead from a directory to another one in a tree, and go on doing so in every tree that has what
they meet.
-/

namespace Bundler.FileTree

open Bundler.Path

/-- Whether names lead from a directory to another one, where so many links may be followed, and how many may be followed
from there on. -/
inductive Leads (tree : FileTree) : Nat → Place → List String → Nat → Place → Prop
  | stay {links here} : Leads tree links here [] links here
  | dot {links here name rest left place} : name = "." → Leads tree links here rest left place →
      Leads tree links here (name :: rest) left place
  | up {links here name rest left place} : name = ".." → Leads tree links here.dropLast rest left place →
      Leads tree links here (name :: rest) left place
  | down {links here name rest left place} : name ≠ "." → name ≠ ".." → name.utf8ByteSize ≤ maxName →
      tree.at? (here ++ [name]) = some .directory → Leads tree links (here ++ [name]) rest left place →
      Leads tree links here (name :: rest) left place
  | link {links here name target rest left place} : name ≠ "." → name ≠ ".." → name.utf8ByteSize ≤ maxName →
      tree.at? (here ++ [name]) = some (.link target) →
      Leads tree links (if target.toList.head? = some '/' then [] else here) (Path.names target ++ rest) left place →
      Leads tree (links + 1) here (name :: rest) left place

variable {tree tree' : FileTree} {current : Option Place} {links left left' : Nat} {here place place' found : Place}
  {names rest : List String} {name target : String} {followLast : Bool} {path base : Path} {item : Item}

section Walk

/-- Where a walk goes on behind a link. -/
def follow (tree : FileTree) (followLast : Bool) : Nat → Place → List String → Except FileError Place
  | 0 => fun _ _ => .error .tooManyLinks
  | links + 1 => walk tree followLast links

theorem walk_eq : walk tree followLast links = walkTo tree followLast (follow tree followLast links) := by
  cases links <;> rfl

/-- What names lead to is where the walk goes on. -/
theorem Leads.walk_append (leads : tree.Leads links here names left place) (more : rest ≠ []) :
    walk tree followLast links here (names ++ rest) = walk tree followLast left place rest := by
  induction leads with
  | stay => rfl
  | dot stays _ ih =>
    rw [← ih, List.cons_append, walk_eq, walkTo, if_pos stays]
  | up climbs _ ih =>
    rw [← ih, List.cons_append, walk_eq, walkTo, if_neg (by simp [climbs]), if_pos climbs]
  | down stays climbs short stands _ ih =>
    rw [← ih, List.cons_append, walk_eq, walkTo, if_neg stays, if_neg climbs, if_neg (Nat.not_lt.mpr short), stands]
  | link stays climbs short stands _ ih =>
    rw [← ih, List.cons_append, walk_eq, walkTo, if_neg stays, if_neg climbs, if_neg (Nat.not_lt.mpr short), stands]
    dsimp only
    rw [if_neg fun both => more (List.append_eq_nil_iff.mp both.1).2, List.append_assoc]
    rfl

theorem leads_of_walkTo (more : rest ≠ []) (onward : ∀ {here names},
      follow tree followLast links here (names ++ rest) = .ok found → ∃ before left place, links = before + 1 ∧
        tree.Leads before here names left place ∧ walk tree followLast left place rest = .ok found)
    (led : walk tree followLast links here (names ++ rest) = .ok found) :
    ∃ left place, tree.Leads links here names left place ∧ walk tree followLast left place rest = .ok found := by
  induction names generalizing here with
  | nil => exact ⟨links, here, .stay, led⟩
  | cons name names ih =>
    have some : names ++ rest ≠ [] := List.append_ne_nil_of_right_ne_nil names more
    rw [List.cons_append, walk_eq, walkTo] at led
    by_cases stays : name = "."
    · rw [if_pos stays, ← walk_eq] at led
      obtain ⟨left, place, leads, walks⟩ := ih led
      exact ⟨left, place, .dot stays leads, walks⟩
    by_cases climbs : name = ".."
    · rw [if_neg stays, if_pos climbs, ← walk_eq] at led
      obtain ⟨left, place, leads, walks⟩ := ih led
      exact ⟨left, place, .up climbs leads, walks⟩
    by_cases long : name.utf8ByteSize > maxName
    · rw [if_neg stays, if_neg climbs, if_pos long] at led
      cases led
    rw [if_neg stays, if_neg climbs, if_neg long] at led
    have short := Nat.not_lt.mp long
    cases stands : tree.at? (here ++ [name]) with
    | none => simp [stands, some] at led
    | some item =>
      cases item with
      | file content => simp [stands, some] at led
      | directory =>
        simp only [stands, ← walk_eq] at led
        obtain ⟨left, place, leads, walks⟩ := ih led
        exact ⟨left, place, .down stays climbs short stands leads, walks⟩
      | link target =>
        simp only [stands, some, false_and, if_false, ← List.append_assoc] at led
        obtain ⟨before, left, place, rfl, leads, walks⟩ := onward led
        exact ⟨left, place, .link stays climbs short stands leads, walks⟩

/-- A walk that gets somewhere has been led to where its last names start. -/
theorem leads_of_walk (more : rest ≠ []) (led : walk tree followLast links here (names ++ rest) = .ok found) :
    ∃ left place, tree.Leads links here names left place ∧ walk tree followLast left place rest = .ok found := by
  induction links generalizing here names with
  | zero => exact leads_of_walkTo more nofun led
  | succ links ih =>
    refine leads_of_walkTo more (fun led => ?_) led
    obtain ⟨left, place, leads, walks⟩ := ih led
    exact ⟨links, left, place, rfl, leads, walks⟩

theorem ne_link_of_directory (stands : tree.at? place = some .directory) (target : String) :
    tree.at? place ≠ some (.link target) := by simp [stands]

/-- A name that is not that of a link leads on if it is that of a directory. -/
theorem walk_cons_iff (proper : IsName name) (more : rest ≠ [])
    (free : ∀ target, tree.at? (here ++ [name]) ≠ some (.link target)) :
    walk tree followLast links here (name :: rest) = .ok found ↔ name.utf8ByteSize ≤ maxName ∧
      tree.at? (here ++ [name]) = some .directory ∧ walk tree followLast links (here ++ [name]) rest = .ok found := by
  rw [walk_eq, walkTo, if_neg proper.1.2.1, if_neg proper.2]
  by_cases long : name.utf8ByteSize > maxName
  · simp [long, Nat.not_le.mpr long]
  rw [if_neg long, and_iff_right (Nat.not_lt.mp long)]
  cases stands : tree.at? (here ++ [name]) with
  | none => simp [more]
  | some item =>
    cases item with
    | directory => simp
    | file content => simp [more]
    | link target => exact absurd stands (free target)

/-- A last name leads to what stands there, whatever that is. -/
theorem walk_name_iff (proper : IsName name)
    (last : followLast = true → ∀ target, tree.at? (here ++ [name]) ≠ some (.link target)) :
    walk tree followLast links here [name] = .ok found ↔ found = here ++ [name] ∧ name.utf8ByteSize ≤ maxName := by
  rw [walk_eq]
  exact walkTo_name proper last

/-- What is no name but dots leads to a directory. -/
theorem walk_dots (piece : IsPiece name) (dots : ¬ IsName name) (way : tree.HasWay here)
    (walks : walk tree followLast links here [name] = .ok found) : tree.at? found = some .directory := by
  rw [walk_eq] at walks
  exact walkTo_dots piece dots way walks

end Walk

section Agreement

/-- Whether two trees have the same wherever both have something. -/
def Agree (tree tree' : FileTree) : Prop :=
  ∀ place item item', tree.at? place = some item → tree'.at? place = some item' → item = item'

theorem Agree.refl (tree : FileTree) : Agree tree tree := fun _ _ _ found found' => Option.some.inj (found.symm.trans found')

/-- Whether a tree has all that another one has. -/
def Extends (tree tree' : FileTree) : Prop := ∀ place item, tree'.at? place = some item → tree.at? place = some item

theorem Extends.agree (more : tree'.Extends tree) : tree.Agree tree' := fun _ _ _ found found' =>
  Option.some.inj ((more _ _ found).symm.trans found')

/-- Names lead to one place in trees that agree, and in every tree that has what these have in common. -/
theorem Leads.common (leads : tree.Leads links here names left place) (leads' : tree'.Leads links here names left' place')
    (agree : tree.Agree tree') : left' = left ∧ place' = place ∧ ∀ tree'' : FileTree,
      (∀ other item, tree.at? other = some item → tree'.at? other = some item → tree''.at? other = some item) →
      tree''.Leads links here names left place := by
  induction leads generalizing left' place' with
  | stay =>
    cases leads'
    exact ⟨rfl, rfl, fun _ _ => .stay⟩
  | dot stays _ ih =>
    cases leads' with
    | dot _ leads' =>
      obtain ⟨same, same', onward⟩ := ih leads'
      exact ⟨same, same', fun tree'' both => .dot stays (onward tree'' both)⟩
    | up climbs => exact absurd (stays.symm.trans climbs) (by decide)
    | down stays' => exact absurd stays stays'
    | link stays' => exact absurd stays stays'
  | up climbs _ ih =>
    cases leads' with
    | dot stays => exact absurd (stays.symm.trans climbs) (by decide)
    | up _ leads' =>
      obtain ⟨same, same', onward⟩ := ih leads'
      exact ⟨same, same', fun tree'' both => .up climbs (onward tree'' both)⟩
    | down _ climbs' => exact absurd climbs climbs'
    | link _ climbs' => exact absurd climbs climbs'
  | down stays climbs short stands _ ih =>
    cases leads' with
    | dot stays' => exact absurd stays' stays
    | up climbs' => exact absurd climbs' climbs
    | down _ _ _ stands' leads' =>
      obtain ⟨same, same', onward⟩ := ih leads'
      exact ⟨same, same', fun tree'' both =>
        .down stays climbs short (both _ _ stands stands') (onward tree'' both)⟩
    | link _ _ _ stands' => cases agree _ _ _ stands stands'
  | link stays climbs short stands _ ih =>
    cases leads' with
    | dot stays' => exact absurd stays' stays
    | up climbs' => exact absurd climbs' climbs
    | down _ _ _ stands' => cases agree _ _ _ stands stands'
    | link _ _ _ stands' leads' =>
      cases agree _ _ _ stands stands'
      obtain ⟨same, same', onward⟩ := ih leads'
      exact ⟨same, same', fun tree'' both =>
        .link stays climbs short (both _ _ stands stands') (onward tree'' both)⟩

theorem Leads.mono (leads : tree.Leads links here names left place) (more : tree'.Extends tree) :
    tree'.Leads links here names left place :=
  (leads.common leads (.refl tree)).2.2 tree' fun other item found _ => more other item found

/-- Names that lead down to a directory in one tree lead there first in all that agree with it, if they lead anywhere. -/
theorem Leads.behind (leads : tree'.Leads links here (names ++ rest) left place) (proper : ∀ name ∈ names, IsName name)
    (way : tree.HasWay (here ++ names)) (way' : tree'.HasWay here) (agree : tree.Agree tree') :
    tree'.HasWay (here ++ names) ∧ tree'.Leads links (here ++ names) rest left place := by
  induction names generalizing here with
  | nil =>
    rw [List.append_nil]
    exact ⟨way', leads⟩
  | cons name names ih =>
    have stands := way (here ++ [name]) (by simp)
    have proper' : ∀ other ∈ names, IsName other := fun other member => proper other (List.mem_cons_of_mem _ member)
    rw [List.append_cons] at way
    rw [List.append_cons]
    cases leads with
    | dot stays => exact absurd stays (proper name (by simp)).1.2.1
    | up climbs => exact absurd climbs (proper name (by simp)).2
    | down _ _ _ stands' leads => exact ih leads proper' way (way'.append stands')
    | link _ _ _ stands' => cases agree _ _ _ stands stands'

/-- What is led to is a directory. -/
theorem Leads.directory (leads : tree.Leads links here names left place) (grounded : tree.Grounded)
    (stands : tree.at? here = some .directory) : tree.at? place = some .directory := by
  induction leads with
  | stay => exact stands
  | dot _ _ ih => exact ih stands
  | up _ _ ih => exact ih (grounded.hasWay stands _ (List.dropLast_prefix _))
  | down _ _ _ stands' _ ih => exact ih stands'
  | link _ _ _ _ _ ih =>
    refine ih ?_
    split
    · rfl
    · exact stands

end Agreement

section Names

/-- The names that a path is written with, up to the `.` behind a slash at its end. -/
def written (path : Path) : List String :=
  ((Text.pieces '/' path.text.toList).filter (· ≠ [])).map String.ofList

theorem written_append (first second : String) : written ⟨first ++ "/" ++ second⟩ = written ⟨first⟩ ++ written ⟨second⟩ := by
  have cut : (first ++ "/" ++ second).toList = first.toList ++ '/' :: second.toList := by simp
  simp only [written, cut, Text.pieces_append, List.filter_append, List.map_append]

theorem names_eq_written (ends : path.text.toList.getLast? ≠ some '/') : Path.names path.text = written path := by
  unfold Path.names written
  simp only [ends, false_and, if_false, List.append_nil]

theorem written_piece (piece : IsPiece name) : written ⟨name⟩ = [name] := by
  have some : name.toList ≠ [] := by simpa using piece.1
  simp [written, Text.pieces_of_not_mem piece.2, some]

/-- A relative path is written behind the one that it leads on from. -/
theorem written_join (base : Path) {other : String} (relative : other.toList.head? ≠ some '/') :
    written (base.join other) = written base ++ written ⟨other⟩ := by
  by_cases none : base.text = ""
  · obtain ⟨text⟩ := base
    subst none
    rw [Path.join, if_neg relative, if_pos rfl]
    rfl
  obtain ⟨before, joined, ends⟩ := Path.join_cut relative none
  obtain ⟨text⟩ := base
  have nothing : written ⟨""⟩ = [] := rfl
  rw [joined, written_append]
  rcases ends with rfl | rfl
  · rfl
  · rw [written_append, nothing, List.append_nil]

theorem not_head_of_isPiece (piece : IsPiece name) : name.toList.head? ≠ some '/' :=
  fun head => piece.2 (List.mem_of_head? head)

theorem written_join_piece (base : Path) (piece : IsPiece name) : written (base.join name) = written base ++ [name] := by
  rw [written_join base (not_head_of_isPiece piece), written_piece piece]

theorem mem_join_iff (base : Path) {c : Char} (other : c ≠ '/') (piece : IsPiece name) :
    c ∈ (base.join name).text.toList ↔ c ∈ base.text.toList ∨ c ∈ name.toList := by
  unfold Path.join
  rw [if_neg (not_head_of_isPiece piece)]
  split
  · next empty => simp [empty]
  split
  · simp
  · simp [other]

theorem names_join (base : Path) (piece : IsPiece name) : Path.names (base.join name).text = written base ++ [name] := by
  have some : name.toList ≠ [] := by simpa using piece.1
  have ends : (base.join name).text.toList.getLast? = name.toList.getLast? := by
    unfold Path.join
    rw [if_neg (not_head_of_isPiece piece)]
    split
    · rfl
    split
    · simp [List.getLast?_append, List.getLast?_eq_some_getLast some]
    · simp [List.getLast?_append, List.getLast?_cons_of_ne_nil some, List.getLast?_eq_some_getLast some]
  rw [names_eq_written fun last => piece.2 (List.mem_of_getLast? (ends ▸ last)), written_join_piece base piece]

theorem written_ofParts {parts : List String} (proper : ∀ segment ∈ parts, IsSegment segment) (absolute : Bool) :
    written (ofParts absolute parts) = parts := by
  have nothing : written ⟨""⟩ = [] := rfl
  have relative : written ⟨slashed parts⟩ = parts := by
    by_cases none : parts = []
    · subst none
      rfl
    · have kept : (parts.map String.toList).filter (· ≠ []) = parts.map String.toList := by
        rw [List.filter_eq_self]
        intro piece member
        obtain ⟨segment, there, rfl⟩ := List.mem_map.mp member
        simpa using (proper segment there).1
      rw [written, pieces_slashed none proper, kept, List.map_map]
      have back : String.ofList ∘ String.toList = id := funext fun _ => String.ofList_toList
      rw [back, List.map_id]
  cases absolute with
  | false => simpa [ofParts] using relative
  | true =>
    have text : ofParts true parts = ⟨"" ++ "/" ++ slashed parts⟩ := by simp [ofParts]
    rw [text, written_append, nothing, relative, List.nil_append]

theorem names_ofParts {parts : List String} (proper : ∀ segment ∈ parts, IsSegment segment) (some : parts ≠ [])
    (absolute : Bool) : Path.names (ofParts absolute parts).text = parts := by
  rw [names_eq_written, written_ofParts proper]
  have pieces : ∀ piece ∈ parts.map String.toList, piece ≠ [] ∧ '/' ∉ piece := by
    intro piece member
    obtain ⟨segment, there, rfl⟩ := List.mem_map.mp member
    exact ⟨by simpa using (proper segment there).1, (proper segment there).2.2⟩
  have behind := joined_ne_nil (by simpa using some) fun piece member => (pieces piece member).1
  have last := getLast?_joined pieces
  rw [List.getLast?_eq_some_getLast behind] at last
  cases absolute <;> simp [ofParts, toList_slashed, List.getLast?_cons_of_ne_nil behind,
    List.getLast?_eq_some_getLast behind, last]

end Names

section Locate

/-- Whether a path can be looked up at all. -/
def Usable (path : Path) : Prop :=
  '\x00' ∉ path.text.toList ∧ path.text ≠ "" ∧ path.text.utf8ByteSize ≤ maxPath

/-- The place that a path leads on from. -/
def start? (current : Option Place) (path : Path) : Option Place := if path.isAbsolute then some [] else current

theorem locate_eq_ok : tree.locate current followLast path = .ok found ↔
    Usable path ∧ ∃ start, start? current path = some start ∧
      walk tree followLast maxLinks start (Path.names path.text) = .ok found := by
  unfold locate Usable start?
  by_cases zero : '\x00' ∈ path.text.toList
  · simp [zero]
  by_cases empty : path.text = ""
  · simp [empty]
  by_cases long : path.text.utf8ByteSize > maxPath
  · simp [zero, empty, long, Nat.not_le.mpr long]
  rw [if_neg zero, if_neg empty, if_neg long]
  have usable : '\x00' ∉ path.text.toList ∧ path.text ≠ "" ∧ path.text.utf8ByteSize ≤ maxPath :=
    ⟨zero, empty, Nat.not_lt.mp long⟩
  rw [and_iff_right usable]
  cases path.isAbsolute <;> cases current <;> simp

/-- Where a path has been led to in one tree, it leads on from there in all that agree with it. -/
theorem Leads.of_locate {start : Place} (leads : tree.Leads maxLinks start names left place) (agree : tree.Agree tree')
    (starts : start? current path = some start) (named : Path.names path.text = names ++ rest) (more : rest ≠ [])
    (led : tree'.locate current followLast path = .ok found) :
    tree'.Leads maxLinks start names left place ∧ Usable path ∧ walk tree' followLast left place rest = .ok found := by
  obtain ⟨usable, _, starts', walks⟩ := locate_eq_ok.mp led
  obtain rfl := Option.some.inj (starts.symm.trans starts')
  rw [named] at walks
  obtain ⟨_, _, leads', walks⟩ := leads_of_walk more walks
  obtain ⟨rfl, rfl, _⟩ := leads.common leads' agree
  exact ⟨leads', usable, walks⟩

theorem Leads.locate_iff {start : Place} (leads : tree.Leads maxLinks start names left place)
    (starts : start? current path = some start) (named : Path.names path.text = names ++ rest) (more : rest ≠ []) :
    tree.locate current followLast path = .ok found ↔ Usable path ∧ walk tree followLast left place rest = .ok found := by
  rw [locate_eq_ok, starts, named, ← leads.walk_append more]
  simp

end Locate

section Making

/-- Whether the current directory, if there is one, is in the tree. -/
def Standing (tree : FileTree) (current : Option Place) : Prop :=
  ∀ here, current = some here → tree.at? here = some .directory

theorem Standing.start (standing : tree.Standing current) (starts : start? current path = some here) :
    tree.at? here = some .directory := by
  unfold start? at starts
  split at starts
  · cases starts
    rfl
  · exact standing here starts

/-- A path that leads to a free place leads into a directory. -/
theorem locate_free (grounded : tree.Grounded) (standing : tree.Standing current)
    (led : tree.locate current false path = .ok found) (free : tree.at? found = none) :
    ∃ above name, found = above ++ [name] ∧ tree.at? above = some .directory := by
  obtain ⟨_, start, starts, walks⟩ := locate_eq_ok.mp led
  have here := standing.start starts
  rcases List.eq_nil_or_concat (Path.names path.text) with none | ⟨front, name, split⟩
  · rw [none, walk_eq, walkTo] at walks
    cases walks
    rw [here] at free
    cases free
  rw [split, List.concat_eq_append] at walks
  obtain ⟨left, above, leads, walks⟩ := leads_of_walk (by simp) walks
  have stands := leads.directory grounded here
  rw [walk_eq, walkTo] at walks
  split at walks
  · cases walks
    rw [stands] at free
    cases free
  split at walks
  · cases walks
    rw [grounded.hasWay stands _ (List.dropLast_prefix above)] at free
    cases free
  split at walks
  · cases walks
  refine ⟨above, name, ?_, stands⟩
  split at walks
  · cases walks
    rfl
  · rw [walkTo] at walks
    cases walks
    rfl
  · cases walks
    rfl
  · cases walks
    rfl

theorem Grounded.put (grounded : tree.Grounded) (stands : tree.at? place = some .directory)
    (unused : tree.at? (place ++ [name]) = none) (item : Item) : (tree.put (place ++ [name]) item).Grounded := by
  intro above other some
  rw [at?_put (by simp)] at some ⊢
  by_cases new : above ++ [other] = place ++ [name]
  · obtain ⟨rfl, _⟩ := List.append_inj' new rfl
    rw [if_neg (by simp), stands]
  · rw [if_neg new] at some
    rw [if_neg, grounded above other some]
    rintro rfl
    rw [grounded _ _ some] at unused
    cases unused

theorem Extends.put (unused : tree.at? place = none) (item : Item) : (tree.put place item).Extends tree := by
  intro other kept found
  have below : place ≠ [] := by
    rintro rfl
    cases unused
  rw [at?_put below, if_neg, found]
  rintro rfl
  rw [unused] at found
  cases found

theorem Extends.trans {tree'' : FileTree} (second : tree''.Extends tree') (first : tree'.Extends tree) :
    tree''.Extends tree := fun place item found => second place item (first place item found)

theorem Extends.refl (tree : FileTree) : tree.Extends tree := fun _ _ found => found

/-- Whether a tree has grown out of another one, and everything in it still stands in a directory. -/
def Grew (tree tree' : FileTree) : Prop := tree'.Grounded ∧ tree'.Extends tree

theorem Grew.standing (grew : tree.Grew tree') (standing : tree.Standing current) : tree'.Standing current :=
  fun here same => grew.2 here _ (standing here same)

theorem makeDir_free (made : tree.makeDir current path = .ok tree') : ∃ place,
    tree.locate current false path = .ok place ∧ tree.at? place = none ∧ tree' = tree.put place .directory := by
  unfold makeDir at made
  cases led : tree.locate current false path with
  | error e => simp [led, bind, Except.bind] at made
  | ok place =>
    simp only [led, bind, Except.bind] at made
    cases free : tree.at? place with
    | some item => simp [free] at made
    | none =>
      simp only [free, Except.ok.injEq] at made
      exact ⟨place, rfl, free, made.symm⟩

theorem ensureDir_grew (grounded : tree.Grounded) (standing : tree.Standing current)
    (ensured : tree.ensureDir current path = .ok tree') : tree.Grew tree' := by
  unfold ensureDir at ensured
  split at ensured
  · next made =>
    cases ensured
    obtain ⟨_, led, free, rfl⟩ := makeDir_free made
    obtain ⟨above, name, rfl, stands⟩ := locate_free grounded standing led free
    exact ⟨grounded.put stands free _, .put free _⟩
  · split at ensured
    · cases ensured
      exact ⟨grounded, .refl _⟩
    · cases ensured

theorem ensureDirs_grew {paths : List Path} (grounded : tree.Grounded) (standing : tree.Standing current) :
    tree.Grew (tree.ensureDirs current paths).1 := by
  induction paths with
  | nil => exact ⟨grounded, .refl _⟩
  | cons path higher ih =>
    rw [ensureDirs]
    split
    · next made => exact ensureDir_grew grounded standing made
    · split
      · exact ⟨grounded, .refl _⟩
      · split
        · next below ensured =>
          rw [ensured] at ih
          split
          · next made =>
            have grew := ensureDir_grew ih.1 (ih.standing standing) made
            exact ⟨grew.1, grew.2.trans ih.2⟩
          · exact ih
        · next below e ensured =>
          rw [ensured] at ih
          exact ih
    · exact ⟨grounded, .refl _⟩

/-- Making directories adds some, each of them in another one, whether or not it comes to its end. -/
theorem createDirs_grew (grounded : tree.Grounded) (standing : tree.Standing current) :
    tree.Grew (tree.createDirs current path).1 := by
  unfold createDirs
  split
  · exact ⟨grounded, .refl _⟩
  · exact ensureDirs_grew grounded standing

theorem locate_unusable (named : path.text ≠ "") (unusable : ¬ Usable path) : ∃ e, e ≠ .notFound ∧
    ∀ followLast, tree.locate current followLast path = .error e := by
  unfold Usable at unusable
  by_cases zero : '\x00' ∈ path.text.toList
  · exact ⟨.zeroInPath, by decide, fun _ => if_pos zero⟩
  · have long : path.text.utf8ByteSize > maxPath := Nat.not_le.mp fun short => unusable ⟨zero, named, short⟩
    exact ⟨.nameTooLong, by decide, fun _ => (if_neg zero).trans ((if_neg named).trans (if_pos long))⟩

/-- A directory that is made where nothing stands is one more, unless its path cannot be looked up. -/
theorem createDirs_free {start : Place} (named : path.text ≠ "") (starts : start? current path = some start)
    (walks : walk tree false maxLinks start (Path.names path.text) = .ok found) (free : tree.at? found = none)
    (made : tree.createDirs current path = (tree', .ok ())) : Usable path ∧ tree' = tree.put found .directory := by
  obtain ⟨above, paths⟩ := lineage_cons path path.parts.length
  rw [createDirs, if_neg named, paths, ensureDirs] at made
  by_cases usable : Usable path
  · have led : tree.locate current false path = .ok found := locate_eq_ok.mpr ⟨usable, start, starts, walks⟩
    have makes : tree.makeDir current path = .ok (tree.put found .directory) := by
      simp [makeDir, led, free, bind, Except.bind]
    rw [ensureDir, makes] at made
    cases made
    exact ⟨usable, rfl⟩
  · obtain ⟨e, other, fails⟩ := @locate_unusable tree current path named usable
    have ensures : tree.ensureDir current path = .error e := by
      simp [ensureDir, makeDir, isDirectory, look, fails, bind, Except.bind]
    rw [ensures] at made
    cases e <;> simp_all

end Making

end Bundler.FileTree
