import Bundler.Host.FileTree
import Bundler.Proofs.Path.Lead

/-!
Where paths lead in a tree without symbolic links: to the place that their segments name.
-/

namespace Bundler.FileTree

variable {tree : FileTree} {current : Option Place} {here place : Place} {names : List String} {path : Path}

def Linkless (tree : FileTree) : Prop := ∀ entry ∈ tree.entries, ∀ target, entry.2 ≠ .link target

theorem mem_of_at? {item : Item} (found : tree.at? place = some item) (below : place ≠ []) :
    (place, item) ∈ tree.entries := by
  rw [at?, if_neg below, Option.map_eq_some_iff] at found
  obtain ⟨⟨place', item'⟩, first, rfl⟩ := found
  have same : place' = place := by simpa using List.find?_some first
  exact same ▸ List.mem_of_find?_eq_some first

theorem Linkless.at?_ne (linkless : tree.Linkless) (target : String) : tree.at? place ≠ some (.link target) := by
  intro found
  have below : place ≠ [] := by
    rintro rfl
    simp [at?] at found
  exact linkless _ (mem_of_at? found below) target rfl

/-- The names of a path are its segments, up to the `.` that stands for nothing. -/
theorem filter_names (text : String) : (Path.names text).filter (· ≠ ".") = Path.segments text := by
  have dots : (fun name => decide (name ≠ ".")) ∘ String.ofList = fun piece => decide (piece ≠ ['.']) := by
    funext piece
    have same : String.ofList piece = "." ↔ piece = ['.'] := by
      rw [← String.toList_inj, String.toList_ofList]
      rfl
    simp [same]
  have behind (slash : Prop) [Decidable slash] :
      (if slash then [['.']] else []).filter (fun piece => decide (piece ≠ ['.'])) = [] := by
    split <;> simp
  unfold Path.names Path.segments
  simp only [List.map_append, List.filter_append, List.filter_map, List.filter_filter, dots, behind, List.map_nil,
    List.append_nil]
  congr 2
  funext piece
  rw [Bool.decide_and, Bool.and_comm]

/-- Without links and without climbing, names lead down one by one. -/
theorem walkTo_place (linkless : tree.Linkless) {followLast : Bool}
    {follow : Place → List String → Except FileError Place} (down : ".." ∉ names)
    (led : tree.walkTo followLast follow here names = .ok place) : place = here ++ names.filter (· ≠ ".") := by
  induction names generalizing here with
  | nil =>
    simp only [walkTo, Except.ok.injEq] at led
    simp [led]
  | cons name rest ih =>
    simp only [List.mem_cons, not_or] at down
    rw [walkTo] at led
    by_cases stays : name = "."
    · rw [if_pos stays] at led
      rw [ih down.2 led, stays]
      simp
    · rw [if_neg stays, if_neg (Ne.symm down.1)] at led
      by_cases long : name.utf8ByteSize > maxName
      · simp [long] at led
      · rw [if_neg long] at led
        have kept : (name :: rest).filter (· ≠ ".") = name :: rest.filter (· ≠ ".") := by simp [stays]
        have ended (last : rest = []) : here ++ [name] = here ++ (name :: rest).filter (· ≠ ".") := by
          simp [last, stays]
        rw [kept]
        cases standing : tree.at? (here ++ [name]) with
        | none =>
          by_cases last : rest = []
          · simp_all
          · simp [standing, last] at led
        | some item =>
          cases item with
          | directory =>
            simp only [standing] at led
            rw [ih down.2 led]
            simp
          | file content =>
            by_cases last : rest = []
            · simp_all
            · simp [standing, last] at led
          | link target => exact absurd standing (linkless.at?_ne target)

section Direct

variable {followLast : Bool}

theorem walkTo_down {name : String} {rest : List String} (stays : name ≠ ".") (up : name ≠ "..")
    (led : tree.walkTo followLast (fun _ _ => .error .tooManyLinks) here (name :: rest) = .ok place) :
    tree.walkTo followLast (fun _ _ => .error .tooManyLinks) (here ++ [name]) rest = .ok place := by
  have ended (last : rest = []) (same : (.ok (here ++ [name]) : Except FileError Place) = .ok place) :
      tree.walkTo followLast (fun _ _ => .error .tooManyLinks) (here ++ [name]) rest = .ok place := by
    rw [last, walkTo]
    exact same
  rw [walkTo, if_neg stays, if_neg up] at led
  split at led
  · cases led
  split at led
  · split at led
    · next last => exact ended last led
    · cases led
  · exact led
  · split at led
    · next last => exact ended last led
    · cases led
  · split at led
    · next last => exact ended last.1 led
    · cases led

/-- Names that follow no link lead where they lead by themselves. -/
theorem walkTo_direct (led : tree.walkTo followLast (fun _ _ => .error .tooManyLinks) here names = .ok place) :
    place = (names.filter (· ≠ ".")).foldl Path.onward here := by
  induction names generalizing here with
  | nil =>
    rw [walkTo, Except.ok.injEq] at led
    exact led.symm
  | cons name rest ih =>
    by_cases stays : name = "."
    · rw [walkTo, if_pos stays] at led
      rw [ih led, stays]
      rfl
    have kept : (name :: rest).filter (· ≠ ".") = name :: rest.filter (· ≠ ".") := by simp [stays]
    rw [kept, List.foldl_cons, Path.onward]
    by_cases up : name = ".."
    · rw [walkTo, if_neg stays, if_pos up] at led
      rw [if_pos up]
      exact ih led
    · rw [if_neg up]
      exact ih (walkTo_down stays up led)

/-- Whether a path leads to a place without following a link. -/
def Direct (tree : FileTree) (current : Option Place) (followLast : Bool) (path : Path) (place : Place) : Prop :=
  ∃ start, (if path.isAbsolute then some [] else current) = some start ∧
    tree.walk followLast 0 start (Path.names path.text) = .ok place

theorem Direct.eq_leadFrom (direct : tree.Direct current followLast path place) :
    place = path.leadFrom (current.getD []) := by
  obtain ⟨start, starts, led⟩ := direct
  have same : (if path.isAbsolute then [] else current.getD []) = start := by
    cases absolute : path.isAbsolute with
    | true => simpa [absolute] using starts
    | false =>
      have starts : current = some start := by simpa [absolute] using starts
      rw [starts]
      rfl
  rw [walkTo_direct led, filter_names, Path.leadFrom, same]
  rfl

end Direct

theorem locate_place (linkless : tree.Linkless) {followLast : Bool} (absolute : path.isAbsolute = true)
    (down : ".." ∉ path.parts) (led : tree.locate current followLast path = .ok place) : place = path.parts := by
  have down' : ".." ∉ Path.names path.text := by
    intro member
    have kept : ".." ∈ (Path.names path.text).filter (· ≠ ".") := List.mem_filter.mpr ⟨member, by simp⟩
    rw [filter_names] at kept
    exact down kept
  unfold locate at led
  split at led
  · cases led
  split at led
  · cases led
  split at led
  · cases led
  simp only [absolute] at led
  have found := walkTo_place linkless down' led
  rw [found, List.nil_append, filter_names]
  rfl

/-- A path whose text can be read leads to one of the places that are in use, the root left out. -/
theorem readText_place (linkless : tree.Linkless) (absolute : path.isAbsolute = true) (down : ".." ∉ path.parts)
    {text : String} (read : tree.readText current path = .ok text) :
    path.parts ≠ [] ∧ path.parts ∈ tree.entries.map (·.1) := by
  unfold readText look at read
  cases led : tree.locate current true path with
  | error e => rw [led] at read; cases read
  | ok place =>
    obtain rfl := locate_place linkless absolute down led
    rw [led] at read
    cases standing : tree.at? path.parts with
    | none =>
      simp only [bind, Except.bind, standing] at read
      cases read
    | some item =>
      simp only [bind, Except.bind, standing] at read
      have below : path.parts ≠ [] := by
        intro top
        rw [top] at standing
        simp only [at?, if_true, Option.some.injEq] at standing
        subst standing
        cases read
      exact ⟨below, List.mem_map.mpr ⟨_, mem_of_at? standing below, rfl⟩⟩

end Bundler.FileTree
