import Bundler.Proofs.Module.Resolve
import Bundler.Proofs.Path.Lead
import Mathlib.Data.Set.Function

/-!
Files of a project and their ids. An id that stays in the project and has no backslash is found again from its file, so no
other such id has the file. The id of a file leads back to the file unless a name on the way has a backslash, which an id
takes for a slash.
-/

namespace Bundler

namespace Path

variable {text segment : String} {parts : List String} {c : Char}

theorem startsWith_iff {path base : Path} (alike : path.isAbsolute = base.isAbsolute) :
    path.startsWith base = true ↔ base.parts <+: path.parts := by
  rw [startsWith, alike]
  cases base.isAbsolute <;> simp [List.isPrefixOf_iff_prefix]

theorem toSlashes_eq (plain : '\\' ∉ text.toList) : toSlashes text = text := by
  have same : text.toList.map (fun c => if c = '\\' then '/' else c) = text.toList.map id :=
    List.map_congr_left fun c member => if_neg fun (back : c = '\\') => plain (back ▸ member)
  rw [toSlashes, same, List.map_id, String.ofList_toList]

theorem backslash_not_mem_toSlashes (text : String) : '\\' ∉ (toSlashes text).toList := by
  rw [toSlashes, String.toList_ofList, List.mem_map]
  rintro ⟨c, _, same⟩
  split at same
  · cases same
  · next other => exact other same

/-- What is written in a segment of a text is written in the text. -/
theorem mem_of_mem_segments (member : segment ∈ segments text) (other : c ≠ '/') (written : c ∈ segment.toList) :
    c ∈ text.toList := by
  simp only [segments, List.mem_map, List.mem_filter] at member
  obtain ⟨piece, ⟨cut, _⟩, rfl⟩ := member
  rw [String.toList_ofList] at written
  rw [← Text.join_pieces '/' text.toList, Text.mem_joined_iff other]
  exact ⟨piece, cut, written⟩

theorem mem_slashed_iff (other : c ≠ '/') : c ∈ (slashed parts).toList ↔ ∃ segment ∈ parts, c ∈ segment.toList := by
  simp [toList_slashed, Text.mem_joined_iff other, List.mem_map]

end Path

namespace ModuleId

open Bundler.Path Bundler.Text

variable {path root : Path} {id : ModuleId} {names : List String}

theorem normalize_slashed (proper : ∀ name ∈ names, IsName name) : normalize (slashed names) = climbing 0 names := by
  rw [normalize, segments_slashed fun name member => (proper name member).1, collapse_names false (up_not_mem proper)]
  rfl

theorem fromPath_eq_ok_iff : fromPath path root = .ok id ↔ path.normalize.startsWith root.normalize = true ∧
    id = normalize (toSlashes (slashed (path.normalize.parts.drop root.normalize.parts.length))) := by
  unfold fromPath below?
  by_cases within : path.normalize.startsWith root.normalize = true
  · simp [within, eq_comm]
  · simp [within]

/-- Whether an id is one that a build can come by: one that a specifier means or that a file has. -/
def Arises (id : ModuleId) : Prop :=
  (∃ specifier parentDir extension, id = resolve specifier parentDir extension) ∨
    ∃ path root, fromPath path root = .ok id

/-- Whether an id of a build stays in the project and is told without a backslash. -/
structure Inner (id : ModuleId) : Prop where
  arises : id.Arises
  inside : ".." ∉ segments id.text
  plain : '\\' ∉ id.text.toList

theorem Arises.canonical (arises : id.Arises) : id.Canonical := by
  rcases arises with ⟨specifier, parentDir, extension, rfl⟩ | ⟨path, root, named⟩
  · exact canonical_resolve specifier parentDir extension
  · exact canonical_fromPath named

theorem Inner.eq_climbing (inner : id.Inner) :
    ∃ names, (∀ name ∈ names, IsName name) ∧ '\\' ∉ (slashed names).toList ∧ id = climbing 0 names := by
  obtain ⟨ups, names, proper, rfl⟩ := inner.arises.canonical
  have level : ups = 0 := by
    have inside := inner.inside
    rw [segments_climbing proper] at inside
    cases ups with
    | zero => rfl
    | succ more => simp [List.replicate_succ] at inside
  subst level
  have plain := inner.plain
  simp only [climbing, List.replicate_zero, List.nil_append, String.toList_append, List.mem_append, not_or] at plain
  exact ⟨names, proper, plain.2, rfl⟩

/-- Where an id leads down by names, so does its file from the project root, which may be any path. -/
theorem parts_toPath (root : Path) (proper : ∀ name ∈ names, IsName name) :
    ((climbing 0 names).toPath root).isAbsolute = root.normalize.isAbsolute ∧
      ((climbing 0 names).toPath root).parts = root.normalize.parts ++ names := by
  have proper' : ∀ name ∈ names, IsSegment name := fun name member => (proper name member).1
  obtain ⟨stays, joined⟩ := join_relative root (slashed_head proper')
  rw [toPath, relative_climbing, List.replicate_zero, List.nil_append, (normalize_parts _).1, (normalize_parts _).2,
    (normalize_parts root).1, (normalize_parts root).2, stays, joined, segments_slashed proper',
    collapse_append_names _ (up_not_mem proper)]
  exact ⟨rfl, rfl⟩

/-- An id that stays in the project has its file under it. -/
theorem fromPath_toPath_climbing (root : Path) (proper : ∀ name ∈ names, IsName name)
    (plain : '\\' ∉ (slashed names).toList) : fromPath ((climbing 0 names).toPath root) root = .ok (climbing 0 names) := by
  obtain ⟨alike, parts⟩ := parts_toPath root proper
  have still : ((climbing 0 names).toPath root).normalize = (climbing 0 names).toPath root := normalize_normalize _
  rw [fromPath_eq_ok_iff, still, startsWith_iff alike, parts, List.drop_left, toSlashes_eq plain, normalize_slashed proper]
  exact ⟨List.prefix_append .., rfl⟩

theorem Inner.found_again (inner : id.Inner) (root : Path) : fromPath (id.toPath root) root = .ok id := by
  obtain ⟨names, proper, plain, rfl⟩ := inner.eq_climbing
  exact fromPath_toPath_climbing root proper plain

/-- An id that stays in the project comes back from its file, under any root. So it is the only such id of the file,
whichever directory the file is required from. -/
theorem fromPath_toPath (root : Path) :
    (∀ id : ModuleId, id.Inner → fromPath (id.toPath root) root = .ok id) ∧
      Set.InjOn (fun id : ModuleId => id.toPath root) {id | id.Inner} ∧
      ∀ id : ModuleId, id.Inner → ∀ specifier parentDir extension, (resolve specifier parentDir extension).Inner →
        (resolve specifier parentDir extension).toPath root = id.toPath root →
        resolve specifier parentDir extension = id := by
  have told {id other : ModuleId} (inner : id.Inner) (inner' : other.Inner)
      (same : id.toPath root = other.toPath root) : id = other := by
    have back := inner.found_again root
    rw [same, inner'.found_again root] at back
    exact (Except.ok.inj back).symm
  exact ⟨fun id inner => inner.found_again root, fun id inner other inner' same => told inner inner' same,
    fun id inner specifier parentDir extension inner' same => told inner' inner same⟩

/-- A hidden file, named from two directories, where the root is relative and climbs. -/
theorem fromPath_toPath_hidden : ∃ id : ModuleId, id.Inner ∧
    id = resolve "../.config/...v" "./src" "js" ∧ id.toPath ⟨"a/../..//./b/"⟩ = ⟨"../b/.config/...v"⟩ ∧
      fromPath (id.toPath ⟨"a/../..//./b/"⟩) ⟨"a/../..//./b/"⟩ = .ok id ∧
      resolve ".config//./...v" "." "js" = id := by
  have inner (specifier parentDir : String)
      (means : resolve specifier parentDir "js" = ⟨"./.config/...v"⟩) : (resolve specifier parentDir "js").Inner :=
    ⟨.inl ⟨_, _, _, rfl⟩, by rw [means]; decide +kernel, by rw [means]; decide +kernel⟩
  have here := inner "../.config/...v" "./src" (by decide +kernel)
  have there := inner ".config//./...v" "." (by decide +kernel)
  obtain ⟨back, _, only⟩ := fromPath_toPath ⟨"a/../..//./b/"⟩
  exact ⟨_, here, rfl, by decide +kernel, back _ here, only _ here _ _ _ there (by decide +kernel)⟩

section Faithful

variable (absolute : path.isAbsolute = true) (absolute' : root.isAbsolute = true)

include absolute absolute'

theorem fromPath_ok_iff : (∃ id, fromPath path root = .ok id) ↔ root.normalize.parts <+: path.normalize.parts := by
  have alike : path.normalize.isAbsolute = root.normalize.isAbsolute := by
    rw [isAbsolute_normalize absolute, isAbsolute_normalize absolute']
  simp only [fromPath_eq_ok_iff, startsWith_iff alike]
  simp

omit absolute in
/-- Names that lead on from the root are the end of those that a file of an id has, if they lead to that file. -/
theorem suffix_of_toPath {below : List String} {ups : Nat} (proper : ∀ name ∈ names, IsName name)
    (proper' : ∀ name ∈ below, IsName name)
    (same : (climbing ups names).toPath root = ofParts true (collapse true root.parts ++ below)) : below <:+ names := by
  rw [toPath_climbing absolute' proper] at same
  have parts := ofParts_injective (fun name member => (isName_toPath ups proper name member).1) (fun name member => by
    rcases List.mem_append.mp member with above | here
    · exact (isName_collapse root name above).1
    · exact (proper' name here).1) same
  have size := congrArg List.length parts
  simp only [List.length_append, List.length_take] at size
  exact List.suffix_of_suffix_length_le ⟨_, rfl⟩ ⟨_, parts⟩ (by omega)

/-- A file has an id exactly if it lies under the root. The id stays in the project and leads back to the file exactly if
no name on the way from the root has a backslash. -/
theorem fromPath_faithful_iff : ((∃ id, fromPath path root = .ok id) ↔ root.normalize.parts <+: path.normalize.parts) ∧
    ∀ id, fromPath path root = .ok id → (".." ∉ segments id.text ∧ id.toPath root = path.normalize ↔
      ∀ name ∈ path.normalize.parts.drop root.normalize.parts.length, '\\' ∉ name.toList) := by
  refine ⟨fromPath_ok_iff absolute absolute', fun id named => ?_⟩
  obtain ⟨below, under⟩ := (fromPath_ok_iff absolute absolute').mp ⟨id, named⟩
  obtain ⟨_, same⟩ := fromPath_eq_ok_iff.mp named
  rw [← under, List.drop_left] at same ⊢
  have parts := (normalize_parts path).2
  rw [absolute, ← under, (normalize_parts root).2, absolute'] at parts
  have proper : ∀ name ∈ below, IsName name := fun name member =>
    isName_collapse path name (parts ▸ List.mem_append_right _ member)
  have place : path.normalize = ofParts true (collapse true root.parts ++ below) := by
    rw [Path.normalize, absolute, parts]
  rw [place]
  constructor
  · rintro ⟨_, leads⟩ name member back
    have cut : ∀ segment ∈ segments (toSlashes (slashed below)), IsSegment segment := fun _ => isSegment_of_mem
    obtain ⟨ups, names, proper', settled⟩ := collapse_climbs cut
    have id_eq : id = climbing ups names := by rw [same, normalize, settled, climbing]
    rw [id_eq] at leads
    have kept := (suffix_of_toPath absolute' proper' proper leads).subset member
    have said : name ∈ segments (toSlashes (slashed below)) :=
      mem_of_mem_collapse (settled ▸ List.mem_append_right _ kept)
    exact backslash_not_mem_toSlashes _ (mem_of_mem_segments said (by decide) back)
  · intro plain
    have plain' : '\\' ∉ (slashed below).toList := by
      rw [mem_slashed_iff (by decide)]
      rintro ⟨name, member, back⟩
      exact plain name member back
    rw [toSlashes_eq plain', normalize_slashed proper] at same
    subst same
    refine ⟨?_, ?_⟩
    · rw [segments_climbing proper]
      simpa using up_not_mem proper
    · rw [toPath_climbing absolute' proper, Nat.sub_zero, depth, absolute', List.take_length]

end Faithful

theorem fromPath_faithful_dots : ∃ id, fromPath ⟨"/w/../p/..a/./b"⟩ ⟨"/p//."⟩ = .ok id ∧
    ".." ∉ segments id.text ∧ id.toPath ⟨"/p//."⟩ = (Path.mk "/w/../p/..a/./b").normalize := by
  have absolute : (Path.mk "/w/../p/..a/./b").isAbsolute = true := by decide +kernel
  have absolute' : (Path.mk "/p//.").isAbsolute = true := by decide +kernel
  obtain ⟨has, leads⟩ := fromPath_faithful_iff absolute absolute'
  obtain ⟨id, named⟩ := has.mpr (by decide +kernel)
  exact ⟨id, named, (leads id named).mpr (by decide +kernel)⟩

/-- A file of the project whose name has a backslash behind two dots: its id leaves the project and has another file. -/
theorem fromPath_backslash : (Path.mk "/p").normalize.parts <+: (Path.mk "/p/..\\b.js").normalize.parts ∧
    fromPath ⟨"/p/..\\b.js"⟩ ⟨"/p"⟩ = .ok ⟨"./../b.js"⟩ ∧ ".." ∈ segments "./../b.js" ∧
      (⟨"./../b.js"⟩ : ModuleId).toPath ⟨"/p"⟩ = ⟨"/b.js"⟩ ∧ (Path.mk "/p/..\\b.js").normalize = ⟨"/p/..\\b.js"⟩ :=
  ⟨by decide +kernel, fromPath_eq_ok_iff.mpr (by decide +kernel), by decide +kernel⟩

end ModuleId

end Bundler
