import Bundler.Proofs.Module.Inside

/-!
The normal form of ids. An id is told by its text, which normalizing leaves as it is, and what is written behind an id is
normalized as if it were written behind any text that the id stands for.
-/

namespace Bundler.ModuleId

open Bundler.Path

variable {ups : Nat} {names : List String}

/-- Of segments that climb first and then lead down, those in front of the last one do so too. -/
theorem dropLast_climbing (ups : Nat) (proper : ∀ name ∈ names, IsName name) : ∃ ups' names',
    (∀ name ∈ names', IsName name) ∧
      (List.replicate ups ".." ++ names).dropLast = List.replicate ups' ".." ++ names' := by
  by_cases none : names = []
  · exact ⟨ups - 1, [], by simp, by simp [none]⟩
  · refine ⟨ups, names.dropLast, fun name member => proper name (List.dropLast_subset _ member), ?_⟩
    rw [List.dropLast_append_of_ne_nil none]

/-- The directory of a module is told by the normal form of the segments in front of the last one. -/
theorem parentDir_eq_normalize (proper : ∀ name ∈ names, IsName name) : (climbing ups names).parentDir =
    if (List.replicate ups ".." ++ names).dropLast = [] then "."
    else (normalize (slashed (List.replicate ups ".." ++ names).dropLast)).text := by
  obtain ⟨ups', names', proper', front⟩ := dropLast_climbing ups proper
  rw [parentDir_climbing proper, front, normalize, segments_slashed (isSegment_climbing ups' proper'),
    collapse_climbing ups' proper']

/-- What is written behind a text can as well be written behind the id of the text. -/
theorem normalize_behind (front back : String) :
    normalize ((normalize front).text ++ "/" ++ back) = normalize (front ++ "/" ++ back) := by
  rw [normalize, segments_append, segments_normalize, collapse_place, ← segments_append, ← normalize]

/-- The ids of a build are written in normal form: behind `./` there are segments with one slash between neighbours, which
climb first and then lead down by names. Normalizing leaves them as they are, also in front of other texts, and the
directory of a module is written with its segments up to the last. -/
theorem arises_normal_form :
    (∀ id : ModuleId, id.Arises → ∃ (ups : Nat) (names : List String),
      let parts := List.replicate ups ".." ++ names
      id.text = "./" ++ "/".intercalate parts ∧
      (∀ name ∈ names, name ≠ "" ∧ name ≠ "." ∧ name ≠ ".." ∧ '/' ∉ name.toList) ∧
      normalize id.text = id ∧
      (parts ≠ [] → id.parentDir =
        if parts.dropLast = [] then "." else (normalize ("/".intercalate parts.dropLast)).text)) ∧
    ∀ front back, normalize (front ++ "/" ++ back) = normalize ((normalize front).text ++ "/" ++ back) := by
  refine ⟨fun id arises => ?_, fun front back => (normalize_behind front back).symm⟩
  obtain ⟨ups, names, proper, same⟩ := arises.canonical
  refine ⟨ups, names, congrArg ModuleId.text same, fun name member => ?_, arises.canonical.normalize_text, fun _ => ?_⟩
  · obtain ⟨⟨some, apart, whole⟩, down⟩ := proper name member
    exact ⟨some, apart, down, whole⟩
  · rw [same]
    exact parentDir_eq_normalize proper

/-- An id that climbs, of a specifier with backslashes. -/
theorem arises_normal_form_climbing :
    let id := resolve "..\\..//./lib\\..\\a" "./src" "js"
    id.Arises ∧ id.text = "./../a.js" ∧ normalize id.text = id ∧ ∃ (ups : Nat) (names : List String),
      let parts := List.replicate ups ".." ++ names
      id.text = "./" ++ "/".intercalate parts ∧ parts ≠ [] ∧ id.parentDir =
        if parts.dropLast = [] then "." else (normalize ("/".intercalate parts.dropLast)).text := by
  intro id
  have arises : id.Arises := .inl ⟨_, _, _, rfl⟩
  have text : id.text = "./../a.js" := by decide +kernel
  obtain ⟨normal, _⟩ := arises_normal_form
  obtain ⟨ups, names, told, _, same, parent⟩ := normal id arises
  have some : List.replicate ups ".." ++ names ≠ [] := by
    intro none
    rw [none, text] at told
    exact absurd told (by decide +kernel)
  exact ⟨arises, text, same, ups, names, told, some, parent some⟩

end Bundler.ModuleId
