import Bundler.Proofs.Module.Specifier

/-!
Two ways to the file of a specifier: the id that it means leads to the file from the project root, and its text
leads there from the directory of the module that requires it. Both end at one place, also where they climb
above the project root or above the root of the file system.
-/

namespace Bundler.ModuleId

open Bundler.Path

variable {root : Path} {id : ModuleId}

/-- The file of a normalized text is where its segments lead from the project root. -/
theorem toPath_normalize (absolute : root.isAbsolute = true) (text : String) :
    (normalize text).toPath root = ofParts true (collapse true (root.parts ++ segments text)) := by
  obtain ⟨ups, names, proper, settled⟩ := collapse_climbs fun _ member => isSegment_of_mem member
  have proper' := isSegment_climbing ups proper
  have same : normalize text = climbing ups names := by rw [normalize, settled, climbing]
  rw [same, toPath, relative_climbing, normalize_join absolute (slashed_head proper'), segments_slashed proper',
    ← settled, ← collapse_onward]

/-- A module whose id ends with a name has its file in a directory, where the segments of the id's directory lead. -/
theorem parent?_toPath (absolute : root.isAbsolute = true) (canonical : id.Canonical)
    (named : ∃ name, (segments id.text).getLast? = some name ∧ IsName name) :
    (id.toPath root).parent? = some (ofParts true (collapse true (root.parts ++ segments id.parentDir))) := by
  obtain ⟨ups, names, proper, rfl⟩ := canonical
  obtain ⟨name, last, down⟩ := named
  rw [segments_climbing proper] at last
  obtain ⟨above, cut⟩ := List.getLast?_eq_some_iff.mp last
  have place : (climbing ups names).toPath root = ofParts true (collapse true (root.parts ++ above) ++ [name]) := by
    rw [toPath_climbing absolute proper, depth, absolute, ← collapse_below _ _ (up_not_mem proper), cut,
      ← List.append_assoc, collapse_concat _ down.2]
  have proper' : ∀ segment ∈ collapse true (root.parts ++ above) ++ [name], IsSegment segment := by
    rw [← collapse_concat _ down.2, List.append_assoc, ← cut]
    intro segment member
    rcases List.mem_append.mp (mem_of_mem_collapse member) with there | there
    · exact isSegment_of_mem there
    · exact isSegment_climbing ups proper segment there
  rw [place, parent?_ofParts proper', segments_parentDir proper, cut, List.dropLast_concat]

/-- The file of what a specifier means in a module is found from the directory of the module's file by the text that says
the specifier in full. -/
theorem toPath_resolve (absolute : root.isAbsolute = true) (canonical : id.Canonical)
    (named : ∃ name, (segments id.text).getLast? = some name ∧ IsName name) (specifier extension : String) :
    ∃ directory completed, (id.toPath root).parent? = some directory ∧
      (∀ text, Completes specifier extension text ↔ text = completed) ∧
      (resolve specifier id.parentDir extension).toPath root =
        (Path.mk (directory.text ++ "/" ++ completed)).normalize := by
  refine ⟨_, complete specifier extension, parent?_toPath absolute canonical named, fun _ => completes_iff, ?_⟩
  rw [resolve]
  generalize complete specifier extension = completed
  have proper : ∀ segment ∈ collapse true (root.parts ++ segments id.parentDir), IsSegment segment := by
    intro segment member
    rcases List.mem_append.mp (mem_of_mem_collapse member) with there | there
    · exact isSegment_of_mem there
    · exact isSegment_of_mem there
  generalize place : ofParts true (collapse true (root.parts ++ segments id.parentDir)) = directory
  have stays : directory.isAbsolute = true := place ▸ isAbsolute_ofParts _
  have parts : directory.parts = collapse true (root.parts ++ segments id.parentDir) := place ▸ parts_ofParts proper
  have onward : (Path.mk (directory.text ++ "/" ++ completed)).parts = directory.parts ++ segments completed :=
    segments_append _ _
  have stays' : (Path.mk (directory.text ++ "/" ++ completed)).isAbsolute = true := by
    rw [String.append_assoc]
    exact isAbsolute_append stays _
  rw [toPath_normalize absolute, segments_append, ← List.append_assoc, Path.normalize, stays', onward, parts,
    collapse_place]

/-- A module outside the project, whose specifier climbs beyond the root of the file system and comes back. -/
theorem toPath_resolve_outside :
    ∃ directory, ((⟨"./../lib/a.js"⟩ : ModuleId).toPath ⟨"/p"⟩).parent? = some directory ∧ directory = ⟨"/lib"⟩ ∧
      Completes "..\\.././/p/v1.2/b" "js" "../.././/p/v1.2/b.js" ∧
      (resolve "..\\.././/p/v1.2/b" (⟨"./../lib/a.js"⟩ : ModuleId).parentDir "js").toPath ⟨"/p"⟩ =
        (Path.mk (directory.text ++ "/" ++ "../.././/p/v1.2/b.js")).normalize := by
  have absolute : (Path.mk "/p").isAbsolute = true := by decide +kernel
  have proper : ∀ name ∈ ["lib", "a.js"], IsName name := by
    simp [IsName, IsSegment]
  have canonical : (⟨"./../lib/a.js"⟩ : ModuleId).Canonical := ⟨1, ["lib", "a.js"], proper, by decide +kernel⟩
  have last : (segments "./../lib/a.js").getLast? = some "a.js" := by decide +kernel
  obtain ⟨directory, completed, above, completes, same⟩ :=
    toPath_resolve absolute canonical ⟨"a.js", last, proper "a.js" (by simp)⟩ "..\\.././/p/v1.2/b" "js"
  have place : ((⟨"./../lib/a.js"⟩ : ModuleId).toPath ⟨"/p"⟩).parent? = some ⟨"/lib"⟩ := by decide +kernel
  have full : Completes "..\\.././/p/v1.2/b" "js" "../.././/p/v1.2/b.js" := completes_iff.mpr (by decide +kernel)
  obtain rfl := (completes _).mp full
  exact ⟨directory, above, Option.some.inj (above.symm.trans place), full, same⟩

end Bundler.ModuleId
