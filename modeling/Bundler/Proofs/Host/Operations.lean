import Bundler.Proofs.Host.Way

/-!
What the operations on files do where no link stands on the way to the places that they are given.
-/

namespace Bundler.FileTree

open Bundler.Path

variable {tree before middle after : FileTree} {current : Option Place} {place above other : Place} {name : String}

theorem makeDir_root : tree.makeDir current (pathOf []) = .error .alreadyExists := by
  have led : tree.locate current false (pathOf []) = .ok [] := rfl
  simp [makeDir, led, bind, Except.bind]

theorem makeDir_eq_ok (proper : ∀ other ∈ place ++ [name], IsName other) (free : tree.LinkFree place)
    (made : tree.makeDir current (pathOf (place ++ [name])) = .ok after) :
    tree.at? (place ++ [name]) = none ∧ Fits (place ++ [name]) ∧ tree.HasWay place ∧
      after = tree.put (place ++ [name]) .directory := by
  unfold makeDir at made
  cases led : tree.locate current false (pathOf (place ++ [name])) with
  | error e => simp [led, bind, Except.bind] at made
  | ok found =>
    obtain ⟨rfl, fits, way⟩ := (locate_eq_ok_iff proper free (by simp)).mp led
    simp only [led, bind, Except.bind] at made
    cases standing : tree.at? (place ++ [name]) with
    | some item => simp [standing] at made
    | none =>
      simp only [standing, Except.ok.injEq] at made
      exact ⟨rfl, fits, way, made.symm⟩

section Growth

/-- Whether a tree is as before, but for new directories on the way to a place. -/
def GrownTo (place : Place) (before after : FileTree) : Prop :=
  ∀ other, after.at? other = before.at? other ∨
    before.at? other = none ∧ after.at? other = some .directory ∧ other <+: place

theorem GrownTo.refl (place : Place) (tree : FileTree) : GrownTo place tree tree := fun _ => .inl rfl

theorem GrownTo.trans (first : GrownTo place before middle) (second : GrownTo place middle after) :
    GrownTo place before after := by
  intro other
  rcases second other with same | ⟨free, made, front⟩
  · rw [same]
    exact first other
  · rcases first other with same | ⟨_, made', _⟩
    · exact .inr ⟨same ▸ free, made, front⟩
    · rw [made'] at free
      cases free

theorem GrownTo.mono (grown : GrownTo above before after) (front : above <+: place) : GrownTo place before after :=
  fun other => (grown other).imp_right fun ⟨free, made, front'⟩ => ⟨free, made, front'.trans front⟩

theorem GrownTo.put (free : before.at? above = none) (front : above <+: place) :
    GrownTo place before (before.put above .directory) := by
  intro other
  have below : above ≠ [] := by
    rintro rfl
    cases free
  rw [at?_put below]
  split
  · next same => exact .inr ⟨same ▸ free, rfl, same ▸ front⟩
  · exact .inl rfl

theorem GrownTo.keeps (grown : GrownTo place before after) {item : Item} (found : before.at? other = some item) :
    after.at? other = some item := by
  rcases grown other with same | ⟨unused, _⟩
  · exact same.trans found
  · rw [found] at unused
    cases unused

theorem GrownTo.beyond (grown : GrownTo place before after) (name : String) (rest : Place) :
    after.at? (place ++ name :: rest) = before.at? (place ++ name :: rest) := by
  rcases grown (place ++ name :: rest) with same | ⟨_, _, front⟩
  · exact same
  · exact absurd front.length_le (by simp)

theorem GrownTo.linkFree (grown : GrownTo place before after) (free : before.LinkFree other) :
    after.LinkFree other := by
  intro above front target found
  rcases grown above with same | ⟨_, made, _⟩
  · exact free above front target (same ▸ found)
  · rw [made] at found
    cases found

theorem ensureDir_grown (proper : ∀ name ∈ place, IsName name) (free : tree.LinkFree place) (front : above <+: place)
    (ensured : tree.ensureDir current (pathOf above) = .ok after) : GrownTo place tree after := by
  unfold ensureDir at ensured
  split at ensured
  · next made =>
    cases ensured
    by_cases top : above = []
    · rw [top, makeDir_root] at made
      cases made
    · rw [← List.dropLast_concat_getLast top] at front made
      obtain ⟨unused, _, _, rfl⟩ := makeDir_eq_ok (fun name member => proper name (front.subset member))
        (free.anti ((List.prefix_append _ _).trans front)) made
      exact .put unused front
  · split at ensured
    · cases ensured
      exact .refl _ _
    · cases ensured

theorem ensureDirs_grown {paths : List Path} (proper : ∀ name ∈ place, IsName name) (free : tree.LinkFree place)
    (fronts : ∀ path ∈ paths, ∃ above, above <+: place ∧ path = pathOf above) :
    GrownTo place tree (tree.ensureDirs current paths).1 := by
  induction paths generalizing tree with
  | nil => exact .refl _ _
  | cons path higher ih =>
    obtain ⟨above, front, rfl⟩ := fronts path (by simp)
    have fronts' (path : Path) (member : path ∈ higher) := fronts path (List.mem_cons_of_mem _ member)
    rw [ensureDirs]
    split
    · next made => exact ensureDir_grown proper free front made
    · split
      · exact .refl _ _
      · have grown := ih free fronts'
        split
        · next below ensured =>
          rw [ensured] at grown
          split
          · next made => exact grown.trans (ensureDir_grown proper (grown.linkFree free) front made)
          · exact grown
        · next below e ensured =>
          rw [ensured] at grown
          exact grown
    · exact .refl _ _

theorem parent?_pathOf (proper : ∀ name ∈ place, IsName name) :
    (pathOf place).parent? = if place = [] then none else some (pathOf place.dropLast) := by
  by_cases top : place = []
  · subst top
    rfl
  · rw [if_neg top]
    have split := List.dropLast_concat_getLast top
    have up : (ofParts true (place.dropLast ++ [place.getLast top])).parent? = some (ofParts true place.dropLast) :=
      parent?_ofParts (fun name member => by
        rw [split] at member
        exact (proper name member).1) true
    rwa [split] at up

theorem mem_lineage {path : Path} {n : Nat} (proper : ∀ name ∈ place, IsName name)
    (member : path ∈ lineage (pathOf place) n) : ∃ above, above <+: place ∧ path = pathOf above := by
  induction n generalizing place with
  | zero => exact ⟨place, List.prefix_rfl, List.mem_singleton.mp member⟩
  | succ n ih =>
    rw [lineage, List.mem_cons] at member
    rcases member with rfl | member
    · exact ⟨place, List.prefix_rfl, rfl⟩
    · rw [parent?_pathOf proper] at member
      by_cases top : place = []
      · simp [top] at member
      · have nonempty : (pathOf place.dropLast).text ≠ "" := by simp [pathOf]
        simp only [if_neg top, if_neg nonempty] at member
        obtain ⟨above, front, same⟩ :=
          ih (fun name there => proper name ((List.dropLast_prefix place).subset there)) member
        exact ⟨above, front.trans (List.dropLast_prefix place), same⟩

/-- Making directories adds some on the way, whether or not it comes to its end. -/
theorem createDirs_grown (proper : ∀ name ∈ place, IsName name) (free : tree.LinkFree place) :
    GrownTo place tree (tree.createDirs current (pathOf place)).1 := by
  unfold createDirs
  split
  · exact .refl _ _
  · exact ensureDirs_grown proper free fun path member => mem_lineage proper member

end Growth

/-- The path of something that is new in a directory leads there, or to a directory where its name is dots. -/
theorem locate_new {found : Place} (proper : ∀ name ∈ place, IsName name) (piece : IsPiece name)
    (free : tree.LinkFree place) (unused : tree.at? (place ++ [name]) = none)
    (led : tree.locate current true (pathOf (place ++ [name])) = .ok found) :
    found = place ++ [name] ∧ IsName name ∧ Fits (place ++ [name]) ∧ tree.HasWay place ∨
      tree.at? found = some .directory := by
  by_cases named : IsName name
  · have proper' : ∀ other ∈ place ++ [name], IsName other := isName_concat proper named
    obtain ⟨same, fits, way⟩ := (locate_eq_ok_iff proper' free (by simp [unused])).mp led
    exact .inl ⟨same, named, fits, way⟩
  · exact .inr (locate_dots proper piece named free led)

/-- A text is put where its path leads, unless that is a directory. -/
theorem writeText_eq_ok {path : Path} {text : String} : tree.writeText current path text = .ok after ↔
    ∃ found, tree.locate current true path = .ok found ∧ tree.at? found ≠ some .directory ∧
      after = tree.put found (.file (.text text)) := by
  unfold writeText
  cases led : tree.locate current true path with
  | error e => simp [bind, Except.bind]
  | ok found =>
    simp only [bind, Except.bind, Except.ok.injEq, exists_eq_left']
    split
    · next directory => simp [directory]
    · next other => rw [Except.ok.injEq, eq_comm, and_iff_right other]

theorem writeText_eq_ok_iff {text : String} (proper : ∀ name ∈ place, IsName name) (piece : IsPiece name)
    (free : tree.LinkFree place) (unused : tree.at? (place ++ [name]) = none) :
    tree.writeText current (pathOf (place ++ [name])) text = .ok after ↔
      IsName name ∧ Fits (place ++ [name]) ∧ tree.HasWay place ∧ after = tree.put (place ++ [name]) (.file (.text text)) := by
  rw [writeText_eq_ok]
  constructor
  · rintro ⟨found, led, apart, rfl⟩
    rcases locate_new proper piece free unused led with ⟨rfl, named, fits, way⟩ | directory
    · exact ⟨named, fits, way, rfl⟩
    · exact absurd directory apart
  · rintro ⟨named, fits, way, rfl⟩
    have proper' : ∀ other ∈ place ++ [name], IsName other := isName_concat proper named
    exact ⟨_, (locate_eq_ok_iff proper' free (by simp [unused])).mpr ⟨rfl, fits, way⟩, by simp [unused], rfl⟩

/-- What is known of a move that can be made. -/
theorem route_spec {old new : Path} {source goal : Place} (led : tree.route current old new = .ok (source, goal)) :
    tree.locate current false old = .ok source ∧ tree.locate current false new = .ok goal ∧
      endsWithName old = true ∧ endsWithName new = true ∧
      ∃ moved, tree.at? source = some moved ∧ tree.obstacle? source moved goal = none := by
  unfold route at led
  cases sourceLed : tree.locate current false old with
  | error e => simp [sourceLed, bind, Except.bind] at led
  | ok source =>
    cases goalLed : tree.locate current false new with
    | error e => simp [sourceLed, goalLed, bind, Except.bind] at led
    | ok goal =>
      simp only [sourceLed, goalLed, bind, Except.bind] at led
      split at led
      · cases led
      · next ends =>
        cases stands : tree.at? source with
        | none => simp [stands] at led
        | some moved =>
          simp only [stands] at led
          split at led
          · cases led
          · next clear =>
            cases led
            simp only [Bool.or_eq_true, Bool.not_eq_true', not_or, Bool.not_eq_false] at ends
            exact ⟨rfl, rfl, ends.1, ends.2, moved, stands, clear⟩

theorem apart_of_obstacle {moved : Item} {source target : Place} (clear : tree.obstacle? source moved target = none) :
    (source <+: target → source = target) ∧ (target <+: source → source = target) := by
  unfold obstacle? at clear
  split at clear
  · cases clear
  · next into =>
    split at clear
    · cases clear
    · next outOf =>
      simp only [List.isPrefixOf_iff_prefix, not_and, Decidable.not_not] at into outOf
      exact ⟨into, outOf⟩

/-- Nothing is moved to a place above or below it. -/
theorem route_eq_ok {source target : Place} {name' : String} {places : Place × Place}
    (proper : ∀ other ∈ source ++ [name], IsName other) (proper' : ∀ other ∈ target ++ [name'], IsName other)
    (free : tree.LinkFree source) (free' : tree.LinkFree target)
    (led : tree.route current (pathOf (source ++ [name])) (pathOf (target ++ [name'])) = .ok places) :
    places = (source ++ [name], target ++ [name']) ∧
      (source ++ [name] <+: target ++ [name'] → source ++ [name] = target ++ [name']) ∧
      (target ++ [name'] <+: source ++ [name] → source ++ [name] = target ++ [name']) := by
  obtain ⟨source', target'⟩ := places
  obtain ⟨sourceLed, targetLed, _, _, _, _, clear⟩ := route_spec led
  obtain ⟨rfl, _⟩ := (locate_eq_ok_iff proper free (by simp)).mp sourceLed
  obtain ⟨rfl, _⟩ := (locate_eq_ok_iff proper' free' (by simp)).mp targetLed
  exact ⟨rfl, apart_of_obstacle clear⟩

/-- What starts with a name without slashes is one. -/
theorem isName_append {start rest : String} (proper : IsName start) (plain : '/' ∉ rest.toList) :
    IsName (start ++ rest) := by
  have dots {text : String} (short : text.toList <+: ['.', '.']) : start ++ rest ≠ text := by
    rintro rfl
    obtain ⟨⟨some, apart, _⟩, apart'⟩ := proper
    simp only [ne_eq, ← String.toList_inj] at some apart apart'
    rw [String.toList_append] at short
    have front := (List.prefix_append _ _).trans short
    simp only [List.prefix_cons_iff, List.prefix_nil] at front
    rcases front with none | ⟨_, one, none | ⟨_, rfl, rfl⟩⟩
    · exact some none
    · exact apart (one.trans (by rw [none]; rfl))
    · exact apart' one
  exact ⟨⟨dots (by simp), dots (by simp), by simp [plain, proper.1.2.2]⟩, dots (by simp)⟩

theorem isDigit_freshEnd {n : Nat} {c : Char} (member : c ∈ (freshEnd n).toList) : c.isDigit = true := by
  rw [freshEnd, String.toList_ofList, List.leftpad, List.mem_append] at member
  rcases member with pad | digit
  · rw [List.eq_of_mem_replicate pad]
    rfl
  · exact Nat.isDigit_of_mem_toDigits (by decide) (by decide) digit

theorem not_mem_freshEnd (n : Nat) : '/' ∉ (freshEnd n).toList :=
  fun member => absurd (isDigit_freshEnd member) (by decide)

theorem find?_range_getD {taken : Nat → Bool} {P : Nat → Prop} (tells : ∀ n, taken n = true ↔ P n) (bound : Nat) :
    let first := ((List.range bound).find? (!taken ·)).getD bound
    (∀ m < first, P m) ∧ ∀ n ≤ bound, (∀ m < n, P m) → ¬ P n → first = n := by
  intro first
  rcases found : (List.range bound).find? (!taken ·) with _ | i
  · have all := List.find?_range_eq_none.mp found
    have same : first = bound := by simp only [first, found, Option.getD_none]
    rw [same]
    have before (m : Nat) (less : m < bound) : P m := (tells m).mp (by simpa using all m less)
    refine ⟨before, fun n le _ free => ?_⟩
    exact ((Nat.lt_or_eq_of_le le).resolve_left fun less => free (before n less)).symm
  · obtain ⟨free, _, before⟩ := List.find?_range_eq_some.mp found
    have same : first = i := by simp only [first, found, Option.getD_some]
    rw [same]
    have before (m : Nat) (less : m < i) : P m := (tells m).mp (by simpa using before m less)
    have free : ¬ P i := by simpa [← tells] using free
    refine ⟨before, fun n _ before' free' => ?_⟩
    rcases Nat.lt_trichotomy i n with less | same | less
    · exact absurd (before' i less) free
    · exact same
    · exact absurd (before n less) free'

/-- What a new directory is called, and where it is: names are tried up to the first that is not taken. -/
theorem makeFreshDir_eq (tree : FileTree) (current : Option Place) {start : String}
    (proper : ∀ name ∈ place, IsName name) (proper' : IsName start) : ∃ first,
      tree.makeFreshDir current (pathOf place) start = (pathOf (place ++ [start ++ freshEnd first]),
        tree.makeDir current (pathOf (place ++ [start ++ freshEnd first]))) ∧
      (∀ m < first, tree.makeDir current (pathOf (place ++ [start ++ freshEnd m])) = .error .alreadyExists) ∧
      ∀ n ≤ tree.entries.length,
        (∀ m < n, tree.makeDir current (pathOf (place ++ [start ++ freshEnd m])) = .error .alreadyExists) →
        ¬ tree.makeDir current (pathOf (place ++ [start ++ freshEnd n])) = .error .alreadyExists → first = n := by
  have join (n : Nat) : (pathOf place).join (start ++ freshEnd n) = pathOf (place ++ [start ++ freshEnd n]) :=
    join_pathOf proper (isPiece_of_isName (isName_append proper' (not_mem_freshEnd n)))
  unfold makeFreshDir
  simp only [join]
  refine ⟨_, rfl, find?_range_getD (fun n => ?_) _⟩
  split
  · next makes => simp [makes]
  · next other =>
    simp only [Bool.false_eq_true, false_iff]
    exact other

end Bundler.FileTree
