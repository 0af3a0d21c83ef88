import Bundler.Proofs.Host.Operations
import Mathlib.Data.List.Nodup
import Mathlib.Data.Nat.Find

/-!
When operations on files succeed, and what they come to then. Where no link stands on the way, that is when the paths are
short enough, what is needed is there, and nothing is in the way.
-/

namespace Bundler

namespace FileTree

open Bundler.Path

variable {tree after : FileTree} {current : Option Place} {place source target : Place} {name name' start text : String}
  {n : Nat}

theorem Fits.above (fits : Fits (place ++ [name])) : Fits place := by
  by_cases top : place = []
  · subst top
    decide
  · obtain ⟨short, names⟩ := (fits_iff (by simp)).mp fits
    rw [span_append] at short
    exact (fits_iff top).mpr ⟨by omega, fun other member => names other (List.mem_append_left _ member)⟩

/-- The path of a place is read exactly if a text is there and the way is. -/
theorem readText_eq_ok_iff (proper : ∀ other ∈ place ++ [name], IsName other) (free : tree.LinkFree (place ++ [name])) :
    tree.readText current (pathOf (place ++ [name])) = .ok text ↔
      Fits (place ++ [name]) ∧ tree.HasWay place ∧ tree.at? (place ++ [name]) = some (.file (.text text)) := by
  have leads (found : Place) := @locate_eq_ok_iff tree current place found name true proper
    (free.anti (List.prefix_append ..)) fun _ => free _ List.prefix_rfl
  unfold readText look
  cases led : tree.locate current true (pathOf (place ++ [name])) with
  | error e =>
    simp only [bind, Except.bind, reduceCtorEq, false_iff]
    rintro ⟨fits, way, _⟩
    rw [(leads _).mpr ⟨rfl, fits, way⟩] at led
    cases led
  | ok found =>
    obtain ⟨rfl, fits, way⟩ := (leads found).mp led
    simp only [bind, Except.bind, fits, way, true_and]
    cases standing : tree.at? (place ++ [name]) with
    | none => simp
    | some item =>
      match item with
      | .directory => simp
      | .link target => simp
      | .file (.text held) => simp
      | .file (.bytes held) => simp

theorem readText_free (proper : ∀ other ∈ place ++ [name], IsName other) (way : tree.HasWay place)
    (fits : Fits (place ++ [name])) (unused : tree.at? (place ++ [name]) = none) :
    tree.readText current (pathOf (place ++ [name])) = .error .notFound := by
  have led : tree.locate current true (pathOf (place ++ [name])) = .ok (place ++ [name]) :=
    (locate_eq_ok_iff proper way.linkFree (by simp [unused])).mpr ⟨rfl, fits, way⟩
  unfold readText look
  rw [led]
  simp [unused, bind, Except.bind]

section Making

theorem walkTo_ne_alreadyExists {followLast : Bool} {follow : Place → List String → Except FileError Place}
    (onward : ∀ here names, follow here names ≠ .error .alreadyExists) (here : Place) (names : List String) :
    tree.walkTo followLast follow here names ≠ .error .alreadyExists := by
  induction names generalizing here with
  | nil => simp [walkTo]
  | cons name rest ih =>
    rw [walkTo]
    split
    · exact ih here
    split
    · exact ih here.dropLast
    split
    · simp
    split
    · split <;> simp
    · exact ih (here ++ [name])
    · split <;> simp
    · split
      · simp
      · exact onward _ _

theorem walk_ne_alreadyExists {followLast : Bool} (links : Nat) (here : Place) (names : List String) :
    walk tree followLast links here names ≠ .error .alreadyExists := by
  induction links generalizing here names with
  | zero => exact walkTo_ne_alreadyExists (fun _ _ => by simp) here names
  | succ links ih => exact walkTo_ne_alreadyExists ih here names

theorem locate_ne_alreadyExists {followLast : Bool} {path : Path} :
    tree.locate current followLast path ≠ .error .alreadyExists := by
  unfold locate
  split
  · simp
  split
  · simp
  split
  · simp
  split
  · exact walk_ne_alreadyExists _ _ _
  · exact walk_ne_alreadyExists _ _ _
  · simp

/-- What a new directory comes to is told by what stands at its place, where its path is short enough and the way is
there. -/
theorem makeDir_eq (proper : ∀ other ∈ place ++ [name], IsName other) (way : tree.HasWay place)
    (fits : Fits (place ++ [name])) : tree.makeDir current (pathOf (place ++ [name])) =
      if tree.at? (place ++ [name]) = none then .ok (tree.put (place ++ [name]) .directory) else .error .alreadyExists := by
  have led : tree.locate current false (pathOf (place ++ [name])) = .ok (place ++ [name]) :=
    (locate_eq_ok_iff proper way.linkFree (by simp)).mpr ⟨rfl, fits, way⟩
  unfold makeDir
  rw [led]
  cases standing : tree.at? (place ++ [name]) with
  | none => simp [bind, Except.bind, standing]
  | some item => simp [bind, Except.bind, standing]

theorem of_makeDir_alreadyExists (proper : ∀ other ∈ place ++ [name], IsName other) (free : tree.LinkFree place)
    (stands : tree.makeDir current (pathOf (place ++ [name])) = .error .alreadyExists) :
    tree.at? (place ++ [name]) ≠ none ∧ Fits (place ++ [name]) := by
  unfold makeDir at stands
  cases led : tree.locate current false (pathOf (place ++ [name])) with
  | error e =>
    rw [led] at stands
    cases stands
    exact absurd led locate_ne_alreadyExists
  | ok found =>
    obtain ⟨rfl, fits, _⟩ := (locate_eq_ok_iff proper free (by simp)).mp led
    refine ⟨fun none => ?_, fits⟩
    simp [led, none, bind, Except.bind] at stands

/-- The first of the names that are tried for a new directory which is free. -/
structure First (tree : FileTree) (place : Place) (start : String) (n : Nat) : Prop where
  taken : ∀ m < n, tree.at? (place ++ [start ++ freshEnd m]) ≠ none
  fits : ∀ m ≤ n, Fits (place ++ [start ++ freshEnd m])
  free : tree.at? (place ++ [start ++ freshEnd n]) = none

theorem First.zero (free : tree.at? (place ++ [start ++ freshEnd 0]) = none)
    (fits : Fits (place ++ [start ++ freshEnd 0])) : tree.First place start 0 := by
  refine ⟨fun m less => absurd less (Nat.not_lt_zero m), fun m le => ?_, free⟩
  obtain rfl : m = 0 := Nat.le_zero.mp le
  exact fits

theorem freshEnd_injective : Function.Injective freshEnd := by
  intro m n same
  have digits (n : Nat) : Nat.ofDigitChars 10 (freshEnd n).toList 0 = n := by
    rw [freshEnd, String.toList_ofList, List.leftpad, Nat.ofDigitChars_append, Nat.ofDigitChars_replicate_zero,
      Nat.mul_zero, Nat.ofDigitChars_toDigits (by decide) (by decide)]
  rw [← digits m, same, digits n]

/-- A tree with so many of the names has at least as many entries. -/
theorem le_length_of_taken (taken : ∀ m < n, tree.at? (place ++ [start ++ freshEnd m]) ≠ none) :
    n ≤ tree.entries.length := by
  have distinct : ((List.range n).map fun m => place ++ [start ++ freshEnd m]).Nodup := by
    refine List.Nodup.map (fun m m' same => freshEnd_injective ?_) List.nodup_range
    simpa using same
  have among : ((List.range n).map fun m => place ++ [start ++ freshEnd m]) ⊆ tree.entries.map (·.1) := by
    intro other member
    obtain ⟨m, less, rfl⟩ := List.mem_map.mp member
    obtain ⟨item, found⟩ := Option.ne_none_iff_exists'.mp (taken m (List.mem_range.mp less))
    exact List.mem_map_of_mem (mem_of_at? found (by simp))
  simpa using distinct.length_le_of_subset among

theorem exists_first (fits : ∀ n, (∀ m < n, tree.at? (place ++ [start ++ freshEnd m]) ≠ none) →
    Fits (place ++ [start ++ freshEnd n])) : ∃ n, tree.First place start n := by
  have some : ∃ n, tree.at? (place ++ [start ++ freshEnd n]) = none := by
    refine Classical.byContradiction fun all => ?_
    have more : tree.entries.length + 1 ≤ tree.entries.length :=
      le_length_of_taken fun m _ none => all ⟨m, none⟩
    omega
  refine ⟨Nat.find some, fun m less => Nat.find_min some less, fun m le => ?_, Nat.find_spec some⟩
  exact fits m fun m' less => Nat.find_min some (by omega)

/-- A new directory gets the first name that is free. -/
theorem makeFreshDir_eq_ok_iff {path : Path} (proper : ∀ other ∈ place, IsName other) (proper' : IsName start)
    (free : tree.LinkFree place) : tree.makeFreshDir current (pathOf place) start = (path, .ok after) ↔
      tree.HasWay place ∧ ∃ n, tree.First place start n ∧ path = pathOf (place ++ [start ++ freshEnd n]) ∧
        after = tree.put (place ++ [start ++ freshEnd n]) .directory := by
  have named (n : Nat) : ∀ other ∈ place ++ [start ++ freshEnd n], IsName other :=
    isName_concat proper (isName_append proper' (not_mem_freshEnd n))
  obtain ⟨first, tries, before, only⟩ := makeFreshDir_eq tree current proper proper'
  rw [tries, Prod.mk.injEq]
  constructor
  · rintro ⟨rfl, makes⟩
    obtain ⟨unused, fits, way, rfl⟩ := makeDir_eq_ok (named first) free makes
    have stand (m : Nat) (less : m < first) := of_makeDir_alreadyExists (named m) free (before m less)
    refine ⟨way, first, ⟨fun m less => (stand m less).1, fun m le => ?_, unused⟩, rfl, rfl⟩
    rcases Nat.lt_or_eq_of_le le with less | rfl
    · exact (stand m less).2
    · exact fits
  · rintro ⟨way, n, isFirst, rfl, rfl⟩
    have makes : tree.makeDir current (pathOf (place ++ [start ++ freshEnd n])) = .ok _ :=
      (makeDir_eq (named n) way (isFirst.fits n Nat.le.refl)).trans (if_pos isFirst.free)
    have same : first = n := by
      refine only n (le_length_of_taken isFirst.taken) (fun m less => ?_) (by simp [makes])
      exact (makeDir_eq (named m) way (isFirst.fits m (Nat.le_of_lt less))).trans (if_neg (isFirst.taken m less))
    rw [same]
    exact ⟨rfl, makes⟩

theorem lineage_cons (path : Path) (depth : Nat) : ∃ above, lineage path depth = path :: above := by
  cases depth <;> exact ⟨_, rfl⟩

theorem createDirs_eq {path : Path} (named : path.text ≠ "") (ensured : tree.ensureDir current path = .ok after) :
    tree.createDirs current path = (after, .ok ()) := by
  obtain ⟨above, paths⟩ := lineage_cons path path.parts.length
  rw [createDirs, if_neg named, paths, ensureDirs, ensured]

/-- Where a directory is already, none is made. -/
theorem createDirs_standing (proper : ∀ other ∈ place, IsName other) (way : tree.HasWay place) (fits : Fits place) :
    tree.createDirs current (pathOf place) = (tree, .ok ()) := by
  refine createDirs_eq (by simp [pathOf]) ?_
  rcases List.eq_nil_or_concat place with rfl | ⟨above, name, rfl⟩
  · have stands : tree.isDirectory current (pathOf []) = true := rfl
    rw [ensureDir, makeDir_root]
    exact if_pos stands
  rw [List.concat_eq_append] at proper way fits ⊢
  have wayAbove := way.anti (List.prefix_append above [name])
  have here := way _ List.prefix_rfl
  have led : tree.locate current true (pathOf (above ++ [name])) = .ok (above ++ [name]) :=
    (locate_eq_ok_iff proper wayAbove.linkFree (by simp [here])).mpr ⟨rfl, fits, wayAbove⟩
  have stands : tree.isDirectory current (pathOf (above ++ [name])) = true := by
    simp [isDirectory, look, led, here, bind, Except.bind]
  rw [ensureDir, makeDir_eq proper wayAbove fits, if_neg (by simp [here])]
  exact if_pos stands

theorem createDirs_new (proper : ∀ other ∈ place ++ [name], IsName other) (way : tree.HasWay place)
    (fits : Fits (place ++ [name])) (unused : tree.at? (place ++ [name]) = none) :
    tree.createDirs current (pathOf (place ++ [name])) = (tree.put (place ++ [name]) .directory, .ok ()) := by
  refine createDirs_eq (by simp [pathOf]) ?_
  rw [ensureDir, makeDir_eq proper way fits, if_pos unused]

end Making

theorem isPresent_eq (proper : ∀ other ∈ place ++ [name], IsName other) (way : tree.HasWay place)
    (plain : ∀ target, tree.at? (place ++ [name]) ≠ some (.link target)) (fits : Fits (place ++ [name])) :
    tree.isPresent current (pathOf (place ++ [name])) = (tree.at? (place ++ [name])).isSome := by
  have led : tree.locate current true (pathOf (place ++ [name])) = .ok (place ++ [name]) :=
    (locate_eq_ok_iff proper way.linkFree fun _ => plain).mpr ⟨rfl, fits, way⟩
  unfold isPresent look
  rw [led]
  cases standing : tree.at? (place ++ [name]) with
  | none => simp [bind, Except.bind, standing, Except.isOk, Except.toBool]
  | some item => simp [bind, Except.bind, standing, Except.isOk, Except.toBool]

section Moving

theorem endsWithName_pathOf (proper : ∀ other ∈ place ++ [name], IsName other) :
    endsWithName (pathOf (place ++ [name])) = true := by
  have here := proper name (by simp)
  rw [endsWithName, names_pathOf fun other member => isPiece_of_isName (proper other member), List.getLast?_concat]
  simp [here.1.2.1, here.2]

/-- Something is moved to a free place that is not below it. -/
theorem route_free (proper : ∀ other ∈ source ++ [name], IsName other) (proper' : ∀ other ∈ target ++ [name'], IsName other)
    (way : tree.HasWay source) (way' : tree.HasWay target) (fits : Fits (source ++ [name]))
    (fits' : Fits (target ++ [name'])) (stands : tree.at? (source ++ [name]) ≠ none)
    (unused : tree.at? (target ++ [name']) = none) (into : ¬ source ++ [name] <+: target ++ [name'])
    (outOf : ¬ target ++ [name'] <+: source ++ [name]) :
    tree.route current (pathOf (source ++ [name])) (pathOf (target ++ [name'])) =
      .ok (source ++ [name], target ++ [name']) := by
  have led : tree.locate current false (pathOf (source ++ [name])) = .ok (source ++ [name]) :=
    (locate_eq_ok_iff proper way.linkFree (by simp)).mpr ⟨rfl, fits, way⟩
  have led' : tree.locate current false (pathOf (target ++ [name'])) = .ok (target ++ [name']) :=
    (locate_eq_ok_iff proper' way'.linkFree (by simp)).mpr ⟨rfl, fits', way'⟩
  obtain ⟨moved, standing⟩ := Option.ne_none_iff_exists'.mp stands
  have clear : tree.obstacle? (source ++ [name]) moved (target ++ [name']) = none := by
    unfold obstacle?
    rw [if_neg (by simp [into]), if_neg (by simp [outOf]), unused]
  simp [route, led, led', endsWithName_pathOf proper, endsWithName_pathOf proper', standing, clear, bind, Except.bind]

theorem fits_of_route {path : Path} {places : Place × Place} (proper : ∀ other ∈ target ++ [name'], IsName other)
    (free : tree.LinkFree target) (led : tree.route current path (pathOf (target ++ [name'])) = .ok places) :
    Fits (target ++ [name']) := by
  obtain ⟨_, targetLed, _⟩ := route_spec (show _ = Except.ok (places.1, places.2) from led)
  exact ((locate_eq_ok_iff proper free (by simp)).mp targetLed).2.1

end Moving

end FileTree

end Bundler
