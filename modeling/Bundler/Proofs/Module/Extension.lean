import Bundler.Config.Basic
import Bundler.Proofs.Module.Inside

/-!
Extensions of ids. An id is what its own text means exactly if its last segment has an extension. A specifier means
such an id unless nothing stands behind its last slash, and a file has one exactly if its name has an extension.
-/

namespace Bundler

namespace Path

variable {text segment : String} {names : List String}

/-- A text ends with what stands behind its last slash, if that is a segment. -/
theorem segments_of_lastPiece (said : IsSegment (String.ofList (ModuleId.lastPiece text))) :
    ∃ above, segments text = above ++ [String.ofList (ModuleId.lastPiece text)] := by
  obtain ⟨above, cut⟩ := pieces_eq text
  have kept : ModuleId.lastPiece text ≠ [] ∧ ModuleId.lastPiece text ≠ ['.'] := by
    constructor
    · intro none
      exact said.1 (by rw [none])
    · intro dot
      exact said.2.1 (by rw [dot])
  refine ⟨(above.filter fun piece => piece ≠ [] ∧ piece ≠ ['.']).map String.ofList, ?_⟩
  rw [segments, cut, List.filter_append, List.map_append, List.filter_cons_of_pos (by simpa using kept)]
  rfl

theorem toSlashes_append (left right : String) : toSlashes (left ++ right) = toSlashes left ++ toSlashes right := by
  rw [← String.toList_inj]
  simp [toSlashes]

/-- Each name of a path is read for itself, its backslashes as slashes. -/
theorem segments_toSlashes_slashed (names : List String) :
    segments (toSlashes (slashed names)) = names.flatMap fun name => segments (toSlashes name) := by
  induction names with
  | nil => simp [slashed, toSlashes]
  | cons first rest ih =>
    cases rest with
    | nil => simp [slashed]
    | cons next rest =>
      have cut : slashed (first :: next :: rest) = first ++ "/" ++ slashed (next :: rest) := by
        rw [slashed, String.intercalate_cons_cons]
        rfl
      have slash : toSlashes "/" = "/" := rfl
      rw [cut, toSlashes_append, toSlashes_append, slash, segments_append, ih]
      rfl

end Path

namespace ModuleId

open Bundler.Path Bundler.Text

variable {id : ModuleId} {specifier parentDir extension : String} {name : String} {ups : Nat} {names : List String}
  {config : Config} {path root : Path}

/-- Whether the last segment of an id has an extension. -/
def Extended (id : ModuleId) : Prop := ∃ name, (segments id.text).getLast? = some name ∧ hasExtension name.toList = true

/-- The id of a text that ends with a name ends with it. -/
theorem getLast?_normalize {text : String} (named : IsName (String.ofList (lastPiece text))) :
    (segments (normalize text).text).getLast? = some (String.ofList (lastPiece text)) := by
  obtain ⟨above, cut⟩ := segments_of_lastPiece named.1
  rw [segments_normalize, cut, collapse_concat above named.2, List.getLast?_concat]

theorem lastPiece_append (front last : String) : lastPiece (front ++ "/" ++ last) = lastPiece last := by
  obtain ⟨above, cut⟩ := pieces_eq last
  have whole : (front ++ "/" ++ last).toList = front.toList ++ '/' :: last.toList := by simp
  exact lastPiece_of_pieces (by rw [whole, pieces_append, cut, ← List.append_assoc])

/-- What is written behind a text without a slash is written behind its last piece. -/
theorem lastPiece_append_plain {added : String} (text : String) (plain : '/' ∉ added.toList) :
    lastPiece (text ++ added) = lastPiece text ++ added.toList := by
  obtain ⟨above, cut⟩ := pieces_eq text
  have apart : ∀ piece ∈ above ++ [lastPiece text ++ added.toList], '/' ∉ piece := by
    intro piece member
    rcases List.mem_append.mp member with before | last
    · exact not_mem_of_mem_pieces (cut ▸ List.mem_append_left _ before)
    · obtain rfl := List.mem_singleton.mp last
      simpa using ⟨slash_not_mem_lastPiece text, plain⟩
  have whole : (text ++ added).toList = joined '/' (above ++ [lastPiece text ++ added.toList]) := by
    rw [String.toList_append, ← join_pieces '/' text.toList, cut]
    by_cases only : above = []
    · simp [only, joined]
    · rw [joined_concat _ _ only, joined_concat _ _ only]
      simp
  exact lastPiece_of_pieces (by rw [whole, pieces_joined (by simp) apart])

/-- A name with an extension is a segment that leads down. -/
theorem isName_of_hasExtension {piece : List Char} (has : hasExtension piece = true) (plain : '/' ∉ piece) :
    IsName (String.ofList piece) := by
  simp only [hasExtension, decide_eq_true_eq] at has
  have dots (text : String) (none : '.' ∉ text.toList.tail) : String.ofList piece ≠ text := by
    rintro rfl
    exact none (by simpa using has.2)
  refine ⟨⟨dots "" (by simp), dots "." (by simp), by simpa using plain⟩, fun up => has.1 ?_⟩
  simpa using congrArg String.toList up

/-- What stands behind a dot keeps a piece from saying what dots alone would. -/
theorem append_ne_dots {piece added : List Char} (proper : added.head? ≠ some '.') (some : added ≠ []) :
    piece ++ '.' :: added ≠ ['.', '.'] := by
  obtain ⟨c, cs, rfl⟩ := List.exists_cons_of_ne_nil some
  have apart : c ≠ '.' := by simpa using proper
  intro same
  cases piece with
  | nil => exact apart (by simpa using (List.cons.inj (List.cons.inj same).2).1)
  | cons first rest =>
    have size := congrArg List.length same
    simp at size
    omega

/-- What a name gets behind it for an extension is one, but for a dot at its start. -/
theorem hasExtension_append {piece added : List Char} (proper : added.head? ≠ some '.') (some : added ≠ []) :
    hasExtension (piece ++ '.' :: added) = true ↔ piece ≠ [] ∨ '.' ∈ added := by
  have dots : piece ++ '.' :: added ≠ ['.', '.'] := append_ne_dots proper some
  cases piece with
  | nil => simpa [hasExtension] using fun _ => dots
  | cons first rest => simpa [hasExtension, imp_iff_not_or] using dots

theorem isName_append {piece added : List Char} (plain : '/' ∉ piece) (plain' : '/' ∉ added)
    (proper : added.head? ≠ some '.') (some : added ≠ []) : IsName (String.ofList (piece ++ '.' :: added)) := by
  have apart {text : String} (other : piece ++ '.' :: added ≠ text.toList) :
      String.ofList (piece ++ '.' :: added) ≠ text := by
    rintro rfl
    simp at other
  have long : (piece ++ '.' :: added).length ≥ 2 := by
    have more := List.length_pos_iff.mpr some
    rw [List.length_append, List.length_cons]
    omega
  have short {chars : List Char} (less : chars.length < 2) : piece ++ '.' :: added ≠ chars := by
    rintro rfl
    omega
  exact ⟨⟨apart (short (by decide)), apart (short (by decide)), by simpa using ⟨plain, plain'⟩⟩,
    apart (append_ne_dots proper some)⟩

section Accepted

theorem extension_of_valid (valid : config.validate = .ok config) : config.extension.toList ≠ [] ∧ config.extension.toList.head? ≠ some '.' := by
  unfold Config.validate at valid
  split at valid
  · cases valid
  · split at valid
    · cases valid
    · next proper =>
      rw [not_or] at proper
      exact ⟨by simpa using proper.1, proper.2⟩

variable (valid : config.validate = .ok config) (plain : '/' ∉ config.extension.toList)

include plain

theorem lastPiece_complete_bare (bare : ¬ hasExtension (lastPiece (toSlashes specifier)) = true) :
    lastPiece (complete specifier config.extension) =
      lastPiece (toSlashes specifier) ++ '.' :: config.extension.toList := by
  have plain' : '/' ∉ ("." ++ config.extension).toList := by simpa using plain
  have chars : ("." ++ config.extension).toList = '.' :: config.extension.toList := by simp
  rw [complete, if_neg bare, String.append_assoc, lastPiece_append_plain _ plain', chars]

include valid

/-- The last piece of a completed specifier is a name. -/
theorem lastPiece_complete (specifier : String) :
    IsName (String.ofList (lastPiece (complete specifier config.extension))) ∧
      (hasExtension (lastPiece (complete specifier config.extension)) = true ↔
        lastPiece (toSlashes specifier) ≠ [] ∨ '.' ∈ config.extension.toList) := by
  obtain ⟨some, proper⟩ := extension_of_valid valid
  by_cases has : hasExtension (lastPiece (toSlashes specifier)) = true
  · have kept : complete specifier config.extension = toSlashes specifier := if_pos has
    rw [kept]
    refine ⟨isName_of_hasExtension has (slash_not_mem_lastPiece _), iff_of_true has (.inl fun none => ?_)⟩
    rw [none] at has
    cases has
  · rw [lastPiece_complete_bare plain has]
    exact ⟨isName_append (slash_not_mem_lastPiece _) plain proper some, hasExtension_append proper some⟩

theorem getLast?_resolve (specifier parentDir : String) :
    (segments (resolve specifier parentDir config.extension).text).getLast? =
      some (String.ofList (lastPiece (complete specifier config.extension))) := by
  have last : lastPiece (parentDir ++ "/" ++ complete specifier config.extension) =
      lastPiece (complete specifier config.extension) := lastPiece_append _ _
  have named := (lastPiece_complete valid plain specifier).1
  rw [← last] at named ⊢
  exact getLast?_normalize named

/-- What a specifier means has an extension, unless nothing stands behind the last slash of the specifier and the
extension that is added has no dot in it. -/
theorem extended_resolve_iff (specifier parentDir : String) :
    (resolve specifier parentDir config.extension).Extended ↔
      lastPiece (toSlashes specifier) ≠ [] ∨ '.' ∈ config.extension.toList := by
  rw [Extended, getLast?_resolve valid plain, ← (lastPiece_complete valid plain specifier).2]
  simp

end Accepted

/-- The last piece of an id is its last segment; the id of the project root has none. -/
theorem Canonical.lastPiece_eq (canonical : id.Canonical) :
    lastPiece id.text = ((segments id.text).getLast?.map String.toList).getD [] := by
  obtain ⟨ups, names, proper, rfl⟩ := canonical
  have proper' := isSegment_climbing ups proper
  have cut := pieces_climbing ups names
  rw [segments_climbing proper]
  generalize List.replicate ups ".." ++ names = parts at proper' cut ⊢
  rcases List.eq_nil_or_concat parts with rfl | ⟨above, last, rfl⟩
  · exact lastPiece_of_pieces (cut.trans (List.singleton_append ..).symm)
  · rw [List.concat_eq_append] at proper' cut ⊢
    rw [pieces_slashed (by simp) proper', List.map_append, ← List.cons_append] at cut
    rw [lastPiece_of_pieces cut, List.getLast?_concat]
    rfl

theorem Canonical.extended_iff (canonical : id.Canonical) : id.Extended ↔ hasExtension (lastPiece id.text) = true := by
  rw [canonical.lastPiece_eq, Extended]
  cases (segments id.text).getLast? with
  | none => simp [hasExtension]
  | some name => simp

/-- An id means itself exactly if its last segment has an extension. -/
theorem Canonical.resolve_text_iff (canonical : id.Canonical) (straight : '\\' ∉ id.text.toList)
    (valid : config.validate = .ok config) (plain : '/' ∉ config.extension.toList) :
    resolve id.text "." config.extension = id ↔ id.Extended := by
  constructor
  · intro same
    by_contra bare
    have bare : ¬ hasExtension (lastPiece (toSlashes id.text)) = true := by
      rwa [toSlashes_eq straight, ← canonical.extended_iff]
    have last := (canonical_resolve id.text "." config.extension).lastPiece_eq
    rw [getLast?_resolve valid plain, lastPiece_complete_bare plain bare, same, toSlashes_eq straight] at last
    simp at last
  · intro extended
    have kept : complete id.text config.extension = id.text := by
      rw [complete, toSlashes_eq straight, if_pos (canonical.extended_iff.mp extended)]
    rw [resolve, kept, normalize, segments_append, segments_dot, List.nil_append, ← normalize, canonical.normalize_text]

/-- The ids of builds with an extension: the id of an entry, and what specifiers mean in modules with such ids. -/
inductive Built (extension : String) : ModuleId → Prop
  | entry {path root : Path} {id : ModuleId} (named : fromPath path root = .ok id) : Built extension id
  | required {id : ModuleId} (specifier : String) (built : Built extension id) :
      Built extension (resolve specifier id.parentDir extension)

theorem plain_normalize {text : String} (plain : '\\' ∉ text.toList) : '\\' ∉ (normalize text).text.toList := by
  intro back
  simp only [normalize, String.toList_append, List.mem_append] at back
  rcases back with root | below
  · exact absurd root (by decide)
  · obtain ⟨segment, member, written⟩ := (mem_slashed_iff (by decide)).mp below
    exact plain (mem_of_mem_segments (mem_of_mem_collapse member) (by decide) written)

theorem plain_parentDir (plain : '\\' ∉ id.text.toList) : '\\' ∉ id.parentDir.toList := by
  unfold parentDir
  split
  · next last dir rest cut =>
    rw [String.toList_ofList, mem_joined_iff (by decide)]
    rintro ⟨piece, member, written⟩
    have among : piece ∈ pieces '/' id.text.toList := by
      rw [← List.mem_reverse, cut]
      exact List.mem_cons_of_mem _ (List.mem_reverse.mp member)
    refine plain ?_
    rw [← join_pieces '/' id.text.toList, mem_joined_iff (by decide)]
    exact ⟨piece, among, written⟩
  · decide

theorem plain_complete {extension : String} (specifier : String) (plain : '\\' ∉ extension.toList) :
    '\\' ∉ (complete specifier extension).toList := by
  have straight := backslash_not_mem_toSlashes specifier
  unfold complete
  dsimp only
  split
  · exact straight
  · simp [straight, plain]

theorem Built.canonical (built : Built extension id) : id.Canonical := by
  cases built with
  | entry named => exact canonical_fromPath named
  | required specifier _ => exact canonical_resolve _ _ _

/-- No id of a build has a backslash. -/
theorem Built.straight (built : Built extension id) (plain : '\\' ∉ extension.toList) : '\\' ∉ id.text.toList := by
  induction built with
  | entry named =>
    rw [(fromPath_eq_ok_iff.mp named).2]
    exact plain_normalize (backslash_not_mem_toSlashes _)
  | @required above specifier _ ih =>
    have dir := plain_parentDir ih
    have text := plain_complete specifier plain
    refine plain_normalize ?_
    simp [dir, text]

/-- The names that lead from the root to a file. -/
def namesBelow (root path : Path) : List String := path.normalize.parts.drop root.normalize.parts.length

/-- The id of a file ends with the name that is left at the end when the backslashes in names are read as slashes. -/
theorem extended_fromPath_iff (named : fromPath path root = .ok id) : id.Extended ↔ ∃ name,
    (collapse false ((namesBelow root path).flatMap fun name => segments (toSlashes name))).getLast? = some name ∧
      hasExtension name.toList = true := by
  obtain ⟨_, rfl⟩ := fromPath_eq_ok_iff.mp named
  rw [Extended, segments_normalize, segments_toSlashes_slashed]
  rfl

theorem isSegment_namesBelow {root path : Path} : ∀ segment ∈ namesBelow root path, IsSegment segment := by
  intro segment member
  have among := List.mem_of_mem_drop member
  rw [(normalize_parts path).2] at among
  exact isSegment_of_mem (mem_of_mem_collapse among)

/-- Where the name of a file has no backslash, the id of the file ends with it. -/
theorem extended_fromPath_plain (named : fromPath path root = .ok id) {above : List String}
    (below : namesBelow root path = above ++ [name]) (down : name ≠ "..") (straight : '\\' ∉ name.toList) :
    id.Extended ↔ hasExtension name.toList = true := by
  have proper : IsSegment name := isSegment_namesBelow name (below ▸ List.mem_append_right _ (List.mem_singleton_self _))
  have alone : segments name = [name] := by
    have single : segments (slashed [name]) = [name] := segments_slashed (by simpa using proper)
    rwa [show slashed [name] = name by simp [slashed]] at single
  rw [extended_fromPath_iff named, below, List.flatMap_append, List.flatMap_singleton, toSlashes_eq straight, alone,
    collapse_concat _ down, List.getLast?_concat]
  simp

/-- The ids of a build are what their own texts mean exactly if they end with an extension. What a specifier means does,
unless nothing stands behind the last slash of the specifier and the extension of the build has no dot in it; the id of
an entry does if the name of the file has an extension. -/
theorem resolve_text_eq_iff (valid : config.validate = .ok config)
    (plain : '/' ∉ config.extension.toList ∧ '\\' ∉ config.extension.toList) :
    (∀ m : ModuleId, m.Built config.extension → ∀ specifier,
      let id := resolve specifier m.parentDir config.extension
      (id.Extended ↔ lastPiece (toSlashes specifier) ≠ [] ∨ '.' ∈ config.extension.toList) ∧
        (resolve id.text "." config.extension = id ↔ id.Extended)) ∧
    ∀ path root id, fromPath path root = .ok id →
      (id.Extended ↔ ∃ name,
        (collapse false ((namesBelow root path).flatMap fun name => segments (toSlashes name))).getLast? = some name ∧
          hasExtension name.toList = true) ∧
      (∀ above name, namesBelow root path = above ++ [name] → name ≠ ".." → '\\' ∉ name.toList →
        (id.Extended ↔ hasExtension name.toList = true)) ∧
      (resolve id.text "." config.extension = id ↔ id.Extended) := by
  have fixed {id : ModuleId} (built : id.Built config.extension) :
      resolve id.text "." config.extension = id ↔ id.Extended :=
    built.canonical.resolve_text_iff (built.straight plain.2) valid plain.1
  refine ⟨fun m built specifier => ?_, fun path root id named => ?_⟩
  · exact ⟨extended_resolve_iff valid plain.1 specifier m.parentDir, fixed (built.required specifier)⟩
  · exact ⟨extended_fromPath_iff named, fun _ _ => extended_fromPath_plain named, fixed (.entry named)⟩

/-- The configuration of a project whose entry is named. -/
def startingAt (entry : String) : Config := { root := ⟨"/p"⟩, entry }

/-- An entry with an extension, and a specifier with slashes of both kinds that names a hidden directory's file. -/
theorem resolve_text_eq_hidden :
    fromPath ⟨"/p/src/./a.js"⟩ ⟨"/p"⟩ = .ok ⟨"./src/a.js"⟩ ∧
      resolve (⟨"./src/a.js"⟩ : ModuleId).text "." "js" = ⟨"./src/a.js"⟩ ∧
      resolve "..\\.config/b" (⟨"./src/a.js"⟩ : ModuleId).parentDir "js" = ⟨"./.config/b.js"⟩ ∧
      resolve (⟨"./.config/b.js"⟩ : ModuleId).text "." "js" = ⟨"./.config/b.js"⟩ := by
  have valid : (startingAt "src/a.js").validate = .ok (startingAt "src/a.js") := by decide +kernel
  have named : fromPath ⟨"/p/src/./a.js"⟩ ⟨"/p"⟩ = .ok ⟨"./src/a.js"⟩ := by decide +kernel
  have means : resolve "..\\.config/b" (⟨"./src/a.js"⟩ : ModuleId).parentDir "js" = ⟨"./.config/b.js"⟩ := by decide +kernel
  obtain ⟨required, entries⟩ := resolve_text_eq_iff valid (by decide)
  obtain ⟨_, ends, fixed⟩ := entries _ _ _ named
  obtain ⟨extended, fixed'⟩ := required _ (.entry named) "..\\.config/b"
  refine ⟨named, fixed.mpr ((ends ["src"] "a.js" (by decide +kernel) (by decide) (by decide)).mpr (by decide)), means, ?_⟩
  rw [← means]
  exact fixed'.mpr (extended.mpr (.inl (by decide +kernel)))

/-- An entry without an extension, and a specifier that ends with a slash: their ids have none, and mean others. -/
theorem resolve_text_bare : (startingAt "main").validate = .ok (startingAt "main") ∧
    fromPath (startingAt "main").entryPath (startingAt "main").root = .ok ⟨"./main"⟩ ∧
    ¬ (⟨"./main"⟩ : ModuleId).Extended ∧ resolve "./main" "." (startingAt "main").extension = ⟨"./main.js"⟩ ∧
    resolve "./" (⟨"./main"⟩ : ModuleId).parentDir (startingAt "main").extension = ⟨"./.js"⟩ ∧
    ¬ (⟨"./.js"⟩ : ModuleId).Extended ∧ resolve "./.js" "." (startingAt "main").extension = ⟨"./.js.js"⟩ := by
  have bare (text name : String) (last : (segments text).getLast? = some name) (none : hasExtension name.toList = false) :
      ¬ (⟨text⟩ : ModuleId).Extended := by
    rintro ⟨other, last', has⟩
    obtain rfl := Option.some.inj (last.symm.trans last')
    rw [none] at has
    cases has
  exact ⟨by decide +kernel, by decide +kernel, bare _ "main" (by decide +kernel) (by decide +kernel),
    by decide +kernel, by decide +kernel, bare _ ".js" (by decide +kernel) (by decide +kernel), by decide +kernel⟩

end ModuleId

end Bundler
