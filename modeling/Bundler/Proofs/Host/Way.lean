import Bundler.Proofs.Host.Changes
import Bundler.Proofs.Path.Basic

/-!
The way to a place, where no link stands on it: the path of the place leads there if every name and the path are
short enough and everything above the place is a directory, and nowhere else.
-/

namespace Bundler.FileTree

open Bundler.Path

variable {tree : FileTree} {current : Option Place} {place above here found : Place} {names : List String}
  {name : String}

/-- What can stand between slashes. -/
def IsPiece (name : String) : Prop := name ≠ "" ∧ '/' ∉ name.toList

theorem isPiece_of_isName (proper : IsName name) : IsPiece name := ⟨proper.1.1, proper.1.2.2⟩

theorem isName_concat (proper : ∀ other ∈ place, IsName other) (named : IsName name) :
    ∀ other ∈ place ++ [name], IsName other :=
  List.forall_mem_append.mpr ⟨proper, List.forall_mem_singleton.mpr named⟩

theorem isPiece_concat (proper : ∀ other ∈ place, IsName other) (piece : IsPiece name) :
    ∀ other ∈ place ++ [name], IsPiece other :=
  List.forall_mem_append.mpr
    ⟨fun other member => isPiece_of_isName (proper other member), List.forall_mem_singleton.mpr piece⟩

theorem joined_ne_nil {parts : List (List Char)} (some : parts ≠ []) (pieces : ∀ piece ∈ parts, piece ≠ []) :
    Text.joined '/' parts ≠ [] := by
  match parts with
  | [piece] => exact pieces piece (by simp)
  | piece :: next :: rest => simp [Text.joined]

theorem getLast?_joined {parts : List (List Char)} (pieces : ∀ piece ∈ parts, piece ≠ [] ∧ '/' ∉ piece) :
    (Text.joined '/' parts).getLast? ≠ some '/' := by
  induction parts with
  | nil => simp [Text.joined]
  | cons piece rest ih =>
    by_cases alone : rest = []
    · subst alone
      exact fun last => (pieces piece (by simp)).2 (List.mem_of_getLast? last)
    · have behind : Text.joined '/' rest ≠ [] :=
        joined_ne_nil alone fun piece member => (pieces piece (List.mem_cons_of_mem _ member)).1
      have others := ih fun piece member => pieces piece (List.mem_cons_of_mem _ member)
      rw [Text.joined_cons '/' piece alone, List.getLast?_append, List.getLast?_cons_of_ne_nil behind,
        List.getLast?_eq_some_getLast behind]
      rwa [List.getLast?_eq_some_getLast behind] at others

theorem toList_pathOf (place : Place) :
    (pathOf place).text.toList = '/' :: Text.joined '/' (place.map String.toList) := by
  rw [pathOf, String.toList_append, toList_slashed]
  rfl

theorem chars_of_pieces (pieces : ∀ name ∈ place, IsPiece name) :
    ∀ piece ∈ place.map String.toList, piece ≠ [] ∧ '/' ∉ piece := by
  intro piece member
  obtain ⟨name, there, rfl⟩ := List.mem_map.mp member
  exact ⟨by simpa using (pieces name there).1, (pieces name there).2⟩

theorem getLast?_pathOf (pieces : ∀ name ∈ place, IsPiece name) (below : place ≠ []) :
    (pathOf place).text.toList.getLast? ≠ some '/' := by
  have chars := chars_of_pieces pieces
  have behind := joined_ne_nil (by simpa using below) fun piece member => (chars piece member).1
  rw [toList_pathOf, List.getLast?_cons_of_ne_nil behind]
  exact getLast?_joined chars

theorem names_pathOf (pieces : ∀ name ∈ place, IsPiece name) : Path.names (pathOf place).text = place := by
  by_cases below : place = []
  · subst below
    rfl
  have chars := chars_of_pieces pieces
  have cut : Text.pieces '/' (pathOf place).text.toList = [] :: place.map String.toList := by
    rw [toList_pathOf, Text.pieces, if_pos rfl, Text.pieces_joined (by simpa using below) fun piece member =>
      (chars piece member).2]
  have kept : ([] :: place.map String.toList).filter (· ≠ []) = place.map String.toList := by
    rw [List.filter_cons_of_neg (by simp), List.filter_eq_self]
    exact fun piece member => by simpa using (chars piece member).1
  have open_ : ¬ ((pathOf place).text.toList.getLast? = some '/' ∧ place.map String.toList ≠ []) := fun both =>
    getLast?_pathOf pieces below both.1
  unfold Path.names
  simp only [cut, kept, if_neg open_, List.append_nil]
  simp [Function.comp_def]

theorem pathOf_injective {place' : Place} (pieces : ∀ name ∈ place, IsPiece name) (pieces' : ∀ name ∈ place', IsPiece name)
    (same : pathOf place = pathOf place') : place = place' := by
  rw [← names_pathOf pieces, ← names_pathOf pieces', same]

theorem text_concat (below : place ≠ []) (name : String) :
    (pathOf (place ++ [name])).text = (pathOf place).text ++ "/" ++ name := by
  rw [← String.toList_inj, toList_pathOf, List.map_append, List.map_singleton,
    Text.joined_concat '/' _ (by simpa using below)]
  simp [toList_pathOf]

theorem text_cons (name : String) (place : Place) :
    (pathOf (name :: place)).text = "/" ++ name ++ if place = [] then "" else (pathOf place).text := by
  rw [← String.toList_inj, toList_pathOf, List.map_cons]
  by_cases last : place = []
  · simp [last, Text.joined]
  · rw [Text.joined_cons '/' _ (by simpa using last), if_neg last]
    simp [toList_pathOf]

theorem join_pathOf (proper : ∀ other ∈ place, IsName other) (piece : IsPiece name) :
    (pathOf place).join name = pathOf (place ++ [name]) := by
  have relative : name.toList.head? ≠ some '/' := fun head => piece.2 (List.mem_of_head? head)
  have nonempty : (pathOf place).text ≠ "" := by simp [pathOf]
  unfold Path.join
  rw [if_neg relative, if_neg nonempty]
  by_cases below : place = []
  · subst below
    rw [if_pos (by rfl)]
    simp [pathOf, slashed]
  · have pieces : ∀ other ∈ place, IsPiece other := fun other member => isPiece_of_isName (proper other member)
    rw [if_neg (getLast?_pathOf pieces below), ← text_concat below]

/-- Whether there is a directory at a place and everywhere on the way to it. -/
def HasWay (tree : FileTree) (place : Place) : Prop := ∀ above, above <+: place → tree.at? above = some .directory

/-- Whether there is no link at a place nor anywhere on the way to it. -/
def LinkFree (tree : FileTree) (place : Place) : Prop :=
  ∀ above, above <+: place → ∀ target, tree.at? above ≠ some (.link target)

theorem Linkless.linkFree (linkless : tree.Linkless) (place : Place) : tree.LinkFree place :=
  fun _ _ target => linkless.at?_ne target

theorem HasWay.linkFree (way : tree.HasWay place) : tree.LinkFree place := by
  intro above front target found
  rw [way above front] at found
  cases found

theorem HasWay.anti (way : tree.HasWay place) (front : above <+: place) : tree.HasWay above :=
  fun higher front' => way higher (front'.trans front)

theorem HasWay.append (way : tree.HasWay place) (last : tree.at? (place ++ [name]) = some .directory) :
    tree.HasWay (place ++ [name]) := by
  intro above front
  rcases List.prefix_concat_iff.mp front with rfl | front
  · exact last
  · exact way above front

theorem HasWay.put_directory (way : tree.HasWay place) :
    (tree.put (place ++ [name]) .directory).HasWay (place ++ [name]) := by
  refine HasWay.append (fun above front => ?_) (by simp [at?_put])
  rw [at?_put (by simp), if_neg]
  · exact way above front
  · rintro rfl
    exact absurd front.length_le (by simp)

theorem Grounded.hasWay (grounded : tree.Grounded) (here : tree.at? place = some .directory) : tree.HasWay place := by
  rintro above ⟨rest, rfl⟩
  cases rest with
  | nil => rwa [List.append_nil] at here
  | cons name rest =>
    refine grounded above name fun none => ?_
    rw [List.append_cons, grounded.below none rest] at here
    cases here

theorem HasWay.congr (way : tree.HasWay place) {other : FileTree}
    (same : ∀ above, above <+: place → other.at? above = tree.at? above) : other.HasWay place :=
  fun above front => (same above front).trans (way above front)

theorem LinkFree.append (free : tree.LinkFree place)
    (last : ∀ target, tree.at? (place ++ [name]) ≠ some (.link target)) : tree.LinkFree (place ++ [name]) := by
  intro above front
  rcases List.prefix_concat_iff.mp front with rfl | front
  · exact last
  · exact free above front

theorem LinkFree.anti (free : tree.LinkFree place) (front : above <+: place) : tree.LinkFree above :=
  fun higher front' => free higher (front'.trans front)

/-- Whether the path of a place, and each name in it, is short enough to be used. -/
def Fits (place : Place) : Prop :=
  '\x00' ∉ (pathOf place).text.toList ∧ (pathOf place).text.utf8ByteSize ≤ maxPath ∧
    ∀ name ∈ place, name.utf8ByteSize ≤ maxName

instance (place : Place) : Decidable (Fits place) := inferInstanceAs (Decidable (_ ∧ _ ∧ _))

/-- How many bytes there are in the path of a place below the root. -/
def span : Place → Nat
  | [] => 0
  | name :: rest => 1 + name.utf8ByteSize + span rest

theorem span_append (place rest : Place) : span (place ++ rest) = span place + span rest := by
  induction place with
  | nil => simp [span]
  | cons name place ih =>
    rw [List.cons_append, span, span, ih]
    omega

theorem size_pathOf (below : place ≠ []) : (pathOf place).text.utf8ByteSize = span place := by
  have slash : "/".utf8ByteSize = 1 := rfl
  induction place with
  | nil => exact absurd rfl below
  | cons name rest ih =>
    rw [text_cons, String.utf8ByteSize_append, String.utf8ByteSize_append, slash, span]
    by_cases last : rest = []
    · rw [if_pos last, last]
      rfl
    · rw [if_neg last, ih last]

theorem zero_pathOf : '\x00' ∉ (pathOf place).text.toList ↔ ∀ name ∈ place, '\x00' ∉ name.toList := by
  induction place with
  | nil => simp [pathOf, slashed]
  | cons name rest ih =>
    rw [List.forall_mem_cons, ← ih, text_cons]
    by_cases last : rest = []
    · simp [last, pathOf, slashed]
    · simp [last]

theorem fits_iff (below : place ≠ []) : Fits place ↔ span place ≤ maxPath ∧
    ∀ name ∈ place, '\x00' ∉ name.toList ∧ name.utf8ByteSize ≤ maxName := by
  rw [Fits, zero_pathOf, size_pathOf below, and_left_comm]
  simp only [forall_and]

section Walk

variable {followLast : Bool} {follow : Place → List String → Except FileError Place}

theorem forall_prefix_cons (P : Place → Prop) :
    (∀ above, above <+: name :: names → above ≠ [] → P (here ++ above)) ↔
      P (here ++ [name]) ∧ ∀ above, above <+: names → above ≠ [] → P (here ++ [name] ++ above) := by
  constructor
  · intro all
    refine ⟨all [name] ⟨names, rfl⟩ (by simp), fun above front _ => ?_⟩
    simpa using all (name :: above) (by simpa using front) (by simp)
  · rintro ⟨first, others⟩ above front nonempty
    obtain ⟨next, rfl, within⟩ := (List.prefix_cons_iff.mp front).resolve_left nonempty
    by_cases alone : next = []
    · exact alone ▸ first
    · simpa using others next within alone

/-- Names that do not lead to a link lead down one by one. -/
theorem walkTo_append {rest : List String} (more : rest ≠ []) (down : ∀ name ∈ names, name ≠ "." ∧ name ≠ "..")
    (free : ∀ above, above <+: names → above ≠ [] → ∀ target, tree.at? (here ++ above) ≠ some (.link target)) :
    tree.walkTo followLast follow here (names ++ rest) = .ok found ↔
      (∀ name ∈ names, name.utf8ByteSize ≤ maxName) ∧
        (∀ above, above <+: names → above ≠ [] → tree.at? (here ++ above) = some .directory) ∧
        tree.walkTo followLast follow (here ++ names) rest = .ok found := by
  induction names generalizing here with
  | nil => simp +contextual
  | cons name names ih =>
    have proper := down name (by simp)
    rw [List.cons_append, walkTo, if_neg proper.1, if_neg proper.2,
      forall_prefix_cons fun place => tree.at? place = some .directory]
    obtain ⟨first, others⟩ := (forall_prefix_cons fun place => ∀ target, tree.at? place ≠ some (.link target)).mp free
    by_cases long : name.utf8ByteSize > maxName
    · simp [long, Nat.not_le.mpr long]
    have some : names ++ rest ≠ [] := List.append_ne_nil_of_right_ne_nil names more
    rw [if_neg long]
    cases standing : tree.at? (here ++ [name]) with
    | none => simp [some]
    | some item =>
      cases item with
      | file content => simp [some]
      | link target => exact absurd standing (first target)
      | directory =>
        have onward := ih (fun name member => down name (List.mem_cons_of_mem _ member)) others
        simp [onward, Nat.not_lt.mp long]

/-- The last name leads to what stands there, whatever that is. -/
theorem walkTo_name (proper : IsName name)
    (last : followLast = true → ∀ target, tree.at? (here ++ [name]) ≠ some (.link target)) :
    tree.walkTo followLast follow here [name] = .ok found ↔ found = here ++ [name] ∧ name.utf8ByteSize ≤ maxName := by
  rw [walkTo, if_neg proper.1.2.1, if_neg proper.2]
  by_cases long : name.utf8ByteSize > maxName
  · simp [long, Nat.not_le.mpr long]
  rw [if_neg long]
  have short := Nat.not_lt.mp long
  cases standing : tree.at? (here ++ [name]) with
  | none => simp [short, eq_comm]
  | some item =>
    cases item with
    | directory => simp [walkTo, short, eq_comm]
    | file content => simp [short, eq_comm]
    | link target =>
      have stops : followLast = false := by
        rw [← Bool.not_eq_true]
        exact fun follows => last follows target standing
      simp [stops, short, eq_comm]

end Walk

theorem hasWay_iff : tree.HasWay place ↔
    ∀ above, above <+: place → above ≠ [] → tree.at? ([] ++ above) = some .directory := by
  constructor
  · exact fun way above front _ => way above front
  · intro way above front
    by_cases top : above = []
    · exact top ▸ rfl
    · exact way above front top

/-- The path of something in a directory that is not behind a link leads into the directory. -/
theorem locate_append {followLast : Bool} (proper : ∀ name ∈ place, IsName name) (piece : IsPiece name)
    (free : tree.LinkFree place) : ∃ follow, tree.locate current followLast (pathOf (place ++ [name])) = .ok found ↔
      '\x00' ∉ (pathOf (place ++ [name])).text.toList ∧ (pathOf (place ++ [name])).text.utf8ByteSize ≤ maxPath ∧
        (∀ name ∈ place, name.utf8ByteSize ≤ maxName) ∧ tree.HasWay place ∧
        tree.walkTo followLast follow place [name] = .ok found := by
  have pieces : ∀ other ∈ place ++ [name], IsPiece other := isPiece_concat proper piece
  have absolute : (pathOf (place ++ [name])).isAbsolute = true := isAbsolute_ofParts _
  have nonempty : (pathOf (place ++ [name])).text ≠ "" := by simp [pathOf]
  refine ⟨walk tree followLast 39, ?_⟩
  have walks : walk tree followLast maxLinks [] (place ++ [name]) = .ok found ↔ _ :=
    walkTo_append (by simp) (fun name member => ⟨(proper name member).1.2.1, (proper name member).2⟩)
      fun above front _ => free above front
  rw [← hasWay_iff] at walks
  unfold locate
  rw [if_neg nonempty]
  simp only [absolute, names_pathOf pieces]
  by_cases zero : '\x00' ∈ (pathOf (place ++ [name])).text.toList
  · simp [zero]
  by_cases long : (pathOf (place ++ [name])).text.utf8ByteSize > maxPath
  · simp [zero, long, Nat.not_le.mpr long]
  · simp [walks, zero, long, Nat.not_lt.mp long]

/-- The path of a place that is not behind a link leads there or nowhere. -/
theorem locate_eq_ok_iff {followLast : Bool} (proper : ∀ other ∈ place ++ [name], IsName other)
    (free : tree.LinkFree place)
    (last : followLast = true → ∀ target, tree.at? (place ++ [name]) ≠ some (.link target)) :
    tree.locate current followLast (pathOf (place ++ [name])) = .ok found ↔
      found = place ++ [name] ∧ Fits (place ++ [name]) ∧ tree.HasWay place := by
  have here : IsName name := proper name (by simp)
  obtain ⟨follow, leads⟩ := @locate_append tree current place found name followLast
    (fun name member => proper name (List.mem_append_left _ member)) (isPiece_of_isName here) free
  rw [leads, walkTo_name here last]
  simp only [Fits, List.forall_mem_append, List.forall_mem_singleton]
  constructor
  · rintro ⟨zero, short, above, way, rfl, last⟩
    exact ⟨rfl, ⟨zero, short, above, last⟩, way⟩
  · rintro ⟨rfl, ⟨zero, short, above, last⟩, way⟩
    exact ⟨zero, short, above, way, rfl, last⟩

/-- A name of dots leads to a directory. -/
theorem walkTo_dots {follow : Place → List String → Except FileError Place} {followLast : Bool} (piece : IsPiece name)
    (dots : ¬ IsName name) (way : tree.HasWay place) (walks : tree.walkTo followLast follow place [name] = .ok found) :
    tree.at? found = some .directory := by
  rw [walkTo] at walks
  by_cases stays : name = "."
  · rw [if_pos stays, walkTo, Except.ok.injEq] at walks
    exact walks ▸ way place List.prefix_rfl
  · have climbs : name = ".." := Decidable.byContradiction fun apart => dots ⟨⟨piece.1, stays, piece.2⟩, apart⟩
    rw [if_neg stays, if_pos climbs, walkTo, Except.ok.injEq] at walks
    exact walks ▸ way place.dropLast (List.dropLast_prefix place)

/-- What ends in dots leads to a directory. -/
theorem locate_dots {followLast : Bool} (proper : ∀ name ∈ place, IsName name) (piece : IsPiece name)
    (dots : ¬ IsName name) (free : tree.LinkFree place)
    (led : tree.locate current followLast (pathOf (place ++ [name])) = .ok found) :
    tree.at? found = some .directory := by
  obtain ⟨follow, leads⟩ := @locate_append tree current place found name followLast proper piece free
  obtain ⟨_, _, _, way, walks⟩ := leads.mp led
  exact walkTo_dots piece dots way walks

end Bundler.FileTree
