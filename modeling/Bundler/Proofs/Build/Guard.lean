import Bundler.Proofs.Build.Run
import Bundler.Proofs.Host.FileTree

/-!
What the guard of the project root is worth. It compares two paths by their text, and so it tells where they lead only if
both start at one directory, climb equally far from there, and follow no link.
-/

namespace Bundler.Output

open FileTree Bundler.Path

variable {output : Output} {directory root : Path} {filename : String} {graph : ModuleGraph} {world : World}
  {place rootPlace : Place} {e : EmitError}

theorem check_of_startsWith (within : root.normalize.startsWith output.directory = true) :
    ∃ e, output.check root = .error e := by
  unfold check
  rw [if_pos within]
  split
  · exact ⟨_, rfl⟩
  · split
    · exact ⟨_, rfl⟩
    · exact ⟨_, rfl⟩

theorem parts_of_parent? {path : Path} (top : path.parent? = none) : path.parts = [] := by
  unfold parent? at top
  split at top
  · next backwards => exact List.reverse_eq_nil_iff.mp backwards
  · cases top

/-- Apart from file names, what is refused is a directory that the root starts with. -/
theorem startsWith_of_check (refused : output.check root = .error e)
    (alike : root.normalize.isAbsolute = output.directory.isAbsolute) :
    e = .filename output.filename ∨ root.normalize.startsWith output.directory = true := by
  unfold check at refused
  split at refused
  · exact .inl (Except.error.inj refused).symm
  · split at refused
    · next top =>
      have none : output.directory.parts = [] := parts_of_parent? (Option.isNone_iff_eq_none.mp top)
      refine .inr ?_
      rw [startsWith, none, alike]
      cases output.directory.isAbsolute <;> rfl
    · split at refused
      · next within => exact .inr within
      · cases refused

/-- Where links are not on the way and both paths start alike, an output directory at the root or above it is refused, and
nothing changes; no other directory is refused. -/
theorem emit_spares_root (alike : root.isAbsolute = directory.isAbsolute) (level : root.climb = directory.climb)
    (leads : world.tree.Direct world.current false directory.normalize place)
    (leads' : world.tree.Direct world.current true root rootPlace) :
    (place <+: rootPlace → ∀ graph, ∃ e,
      ((Output.of directory filename).emit graph root : Session _).run world = (.error e, world)) ∧
    (¬ place <+: rootPlace → ∀ e, (Output.of directory filename).check root = .error e → e = .filename filename) := by
  have within : root.normalize.startsWith directory.normalize = true ↔ place <+: rootPlace := by
    rw [startsWith_iff_leads alike level (world.current.getD []), leads.eq_leadFrom, leads'.eq_leadFrom,
      leadFrom_normalize]
  constructor
  · intro around graph
    obtain ⟨e, refused⟩ : ∃ e, (Output.of directory filename).check root = .error e :=
      check_of_startsWith (within.mpr around)
    exact ⟨e, by rw [emit_refused_eq refused]; rfl⟩
  · intro apart e refused
    have starts : root.normalize.isAbsolute = directory.normalize.isAbsolute := by
      rw [(normalize_parts root).1, (normalize_parts directory).1, alike]
    exact (startsWith_of_check refused starts).resolve_right fun around => apart (within.mp around)

/-- A project, in a directory that has a second name. -/
def linked : World where
  tree := ⟨[(["w"], .directory), (["w", "p"], .directory), (["w", "p", "a.js"], .file (.text "")),
    (["w", "l"], .link "/w")]⟩
  current := some ["w"]

theorem emit_spares_root_linked :
    ∃ e, ((Output.of ⟨"../w/./"⟩ "main.js").emit lone ⟨"../w/p/../p"⟩ : Session _).run linked = (.error e, linked) := by
  have leads : linked.tree.Direct linked.current false (Path.mk "../w/./").normalize ["w"] :=
    ⟨["w"], by decide +kernel, by rfl⟩
  have leads' : linked.tree.Direct linked.current true ⟨"../w/p/../p"⟩ ["w", "p"] := ⟨["w"], by decide +kernel, by rfl⟩
  exact (emit_spares_root (by decide +kernel) (by decide +kernel) leads leads').1 (by decide) lone

/-- The guard lets the root itself pass, and the sources are gone, where one path is relative and the other one is not, and
where a link is on the way. -/
theorem emit_loses_root : linked.tree.locate linked.current true ⟨"/w/p"⟩ = .ok ["w", "p"] ∧
    linked.files ⟨"/w/p/a.js"⟩ = .ok "" ∧ ∀ directory ∈ [Path.mk "p", Path.mk "/w/l/p"],
      linked.tree.locate linked.current false (Output.of directory "main.js").directory = .ok ["w", "p"] ∧
      (((Output.of directory "main.js").emit lone ⟨"/w/p"⟩ : Session _).run linked).1 =
        .ok (directory.join "main.js") ∧
      (((Output.of directory "main.js").emit lone ⟨"/w/p"⟩ : Session _).run linked).2.files ⟨"/w/p/a.js"⟩ =
        .error .notFound := by decide +kernel

end Bundler.Output
