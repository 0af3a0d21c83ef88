import Bundler.Transform.Rule

/-!
What a source goes through when rules are applied to it. The rules that match its path are told by the path, before any
transform has run, and their chains come to one sequence of transforms, which ends at the first that fails.
-/

namespace Bundler

variable {path : Path} {source out : String}

/-- Whether transforms make a text of another one, each of what the one before it has made. -/
inductive Transform.Makes (path : Path) : List Transform → String → String → Prop
  | nothing {source : String} : Makes path [] source source
  | next {transform : Transform} {rest : List Transform} {source made out : String}
      (ran : transform.run source path = .ok made) (onward : Makes path rest made out) :
      Makes path (transform :: rest) source out

namespace Transform

theorem makes_nil_iff : Makes path [] source out ↔ source = out := by
  constructor
  · rintro ⟨⟩
    rfl
  · rintro rfl
    exact .nothing

theorem makes_cons_iff {transform : Transform} {rest : List Transform} : Makes path (transform :: rest) source out ↔
    ∃ made, transform.run source path = .ok made ∧ Makes path rest made out := by
  constructor
  · rintro (_ | ⟨ran, onward⟩)
    exact ⟨_, ran, onward⟩
  · rintro ⟨made, ran, onward⟩
    exact .next ran onward

end Transform

namespace Step

open Transform

variable {todo : List Step}

/-- Steps behind others go on from what those have made. -/
theorem runAll_append (path : Path) (before after : List Step) (source : String) :
    runAll path (before ++ after) source = (runAll path before source).andThen (runAll path after) := by
  induction before generalizing source with
  | nil => rfl
  | cons step rest ih =>
    rw [List.cons_append, runAll, runAll]
    cases step.transform.run source path with
    | error reason => rfl
    | ok made =>
      simp only [ih made, Transformed.andThen]
      obtain ⟨result, begun⟩ := runAll path rest made
      cases result <;> rfl

theorem runAll_ok_iff : (runAll path todo source).result = .ok out ↔ Makes path (todo.map transform) source out := by
  induction todo generalizing source with
  | nil => rw [runAll, List.map_nil, makes_nil_iff, Except.ok.injEq]
  | cons step rest ih =>
    rw [List.map_cons, makes_cons_iff, runAll]
    cases step.transform.run source path with
    | error reason => simp
    | ok made => simp [ih]

/-- When no step fails, all are begun. -/
theorem begun_of_ok (fine : (runAll path todo source).result = .ok out) : (runAll path todo source).begun = todo := by
  induction todo generalizing source with
  | nil => rfl
  | cons step rest ih =>
    rw [runAll] at fine ⊢
    cases ran : step.transform.run source path with
    | error reason => simp [ran] at fine
    | ok made =>
      simp only [ran] at fine ⊢
      rw [ih fine]

/-- The first step that fails is the last that is begun, whatever is behind it. -/
theorem runAll_stopped {before : List Step} {failing : Step} {made reason : String} (after : List Step)
    (makes : Makes path (before.map transform) source made) (fails : failing.transform.run made path = .error reason) :
    runAll path (before ++ failing :: after) source =
      ⟨.error ⟨failing.transform.name, path, reason⟩, before ++ [failing]⟩ := by
  have fine : (runAll path before source).result = .ok made := runAll_ok_iff.mpr makes
  rw [runAll_append, Transformed.andThen, fine]
  simp only [runAll, fails, begun_of_ok fine]

/-- Where steps fail, there is a first one that does so. -/
theorem exists_failing {e : TransformFailure} (failed : (runAll path todo source).result = .error e) :
    ∃ before failing after made reason, todo = before ++ failing :: after ∧
      Makes path (before.map transform) source made ∧ failing.transform.run made path = .error reason := by
  induction todo generalizing source with
  | nil => simp [runAll] at failed
  | cons step rest ih =>
    cases ran : step.transform.run source path with
    | error reason => exact ⟨[], step, rest, source, reason, rfl, .nothing, ran⟩
    | ok made =>
      simp only [runAll, ran] at failed
      obtain ⟨before, failing, after, last, reason, cut, makes, fails⟩ := ih failed
      exact ⟨step :: before, failing, after, last, reason, by rw [cut, List.cons_append], .next ran makes, fails⟩

/-- The transform that fails is the first that does so, and the last that is begun. -/
theorem runAll_error_iff {e : TransformFailure} : (runAll path todo source).result = .error e ↔
    ∃ before failing after made reason, todo.map transform = before ++ failing :: after ∧
      Makes path before source made ∧ failing.run made path = .error reason ∧ e = ⟨failing.name, path, reason⟩ ∧
      (runAll path todo source).begun.map transform = before ++ [failing] := by
  constructor
  · intro failed
    obtain ⟨before, failing, after, made, reason, rfl, makes, fails⟩ := exists_failing failed
    rw [runAll_stopped after makes fails] at failed ⊢
    obtain rfl := Except.error.inj failed
    exact ⟨before.map transform, failing.transform, after.map transform, made, reason, by simp, makes, fails, rfl, by simp⟩
  · rintro ⟨before, failing, after, made, reason, cut, makes, fails, rfl, _⟩
    obtain ⟨front, back, rfl, rfl, cut'⟩ := List.map_eq_append_iff.mp cut
    obtain ⟨step, rest, rfl, rfl, rfl⟩ := List.map_eq_cons_iff.mp cut'
    rw [runAll_stopped rest makes fails]

end Step

namespace Rule

open Transform

/-- The steps of all rules that match a path. -/
def stepsFor (rules : List Rule) (path : Path) : List Step := (rules.filter (·.matchesPath path)).flatMap steps

theorem stepsFor_append (rules more : List Rule) (path : Path) :
    stepsFor (rules ++ more) path = stepsFor rules path ++ stepsFor more path := by
  simp [stepsFor]

theorem map_transform_stepsFor (rules : List Rule) (path : Path) : (stepsFor rules path).map Step.transform =
    (rules.filter (·.matchesPath path)).flatMap fun rule => rule.chain.reverse := by
  simp [stepsFor, steps, List.map_flatMap, Function.comp_def]

/-- To apply rules is to run the steps of those that match in one go. -/
theorem applyAll_eq_runAll (rules : List Rule) (source : String) (path : Path) :
    applyAll rules source path = Step.runAll path (stepsFor rules path) source := by
  induction rules generalizing source with
  | nil => rfl
  | cons rule rest ih =>
    by_cases wanted : rule.matchesPath path = true
    · have first : stepsFor (rule :: rest) path = rule.steps ++ stepsFor rest path := by simp [stepsFor, wanted]
      rw [applyAll, if_pos wanted, first, Step.runAll_append]
      simp only [ih]
    · have none : stepsFor (rule :: rest) path = stepsFor rest path := by simp [stepsFor, wanted]
      rw [applyAll, if_neg wanted, none, ih]

/-- Whatever the source, rules run the chains of those that match the path, the last transform of a chain first, as one
sequence. They succeed exactly if each transform does on what the one before it has made. Otherwise the first that fails is
told, with the path, and none is begun behind it. So rules behind others go on from what those have made, and a rule that
does not match might as well be absent. -/
theorem applyAll_in_sequence (rules : List Rule) (path : Path) :
    let sequence := (rules.filter (·.matchesPath path)).flatMap fun rule => rule.chain.reverse
    ∀ source,
      (∀ out, (applyAll rules source path).result = .ok out ↔ Makes path sequence source out ∧
        (applyAll rules source path).begun.map Step.transform = sequence) ∧
      (∀ e, (applyAll rules source path).result = .error e ↔ ∃ before failing after made reason,
        sequence = before ++ failing :: after ∧ Makes path before source made ∧ failing.run made path = .error reason ∧
        e = ⟨failing.name, path, reason⟩ ∧
        (applyAll rules source path).begun.map Step.transform = before ++ [failing]) ∧
      (∀ more, applyAll (rules ++ more) source path =
        (applyAll rules source path).andThen fun made => applyAll more made path) ∧
      ∀ rule more, rule.matchesPath path = false →
        applyAll (rules ++ rule :: more) source path = applyAll (rules ++ more) source path := by
  intro sequence source
  have ordered : (stepsFor rules path).map Step.transform = sequence := map_transform_stepsFor rules path
  refine ⟨fun out => ?_, fun e => ?_, fun more => ?_, fun rule more other => ?_⟩
  · rw [applyAll_eq_runAll, Step.runAll_ok_iff, ordered, iff_self_and]
    intro makes
    rw [Step.begun_of_ok (Step.runAll_ok_iff.mpr (ordered ▸ makes)), ordered]
  · rw [applyAll_eq_runAll, Step.runAll_error_iff, ordered]
  · simp only [applyAll_eq_runAll, stepsFor_append, Step.runAll_append]
  · have none : stepsFor (rule :: more) path = stepsFor more path := by simp [stepsFor, other]
    rw [applyAll_eq_runAll, applyAll_eq_runAll, stepsFor_append, stepsFor_append, none]

/-- A rule for the empty path alone, between two chains of which the second fails. -/
theorem applyAll_in_sequence_stopped :
    let append (name : String) : Transform := .custom name fun source _ => .ok (source ++ name)
    let first : Rule := ⟨"", .nothing, [append "1", append "2"]⟩
    let empty : Rule := ⟨"^$", .sequence (.assertion .textStart) (.assertion .textEnd), [append "x"]⟩
    let last : Rule := ⟨"", .nothing, [append "4", .custom "explode" fun _ _ => .error "boom", append "3"]⟩
    let path : Path := ⟨"/p/a.js"⟩
    empty.matchesPath path = false ∧
      applyAll [first, empty, last] "0" path = applyAll [first, last] "0" path ∧
      (applyAll [first, last] "0" path).result = .error ⟨"explode", path, "boom"⟩ := by
  intro append first empty last path
  have other : empty.matchesPath path = false := by decide +kernel
  have wanted : first.matchesPath path = true ∧ last.matchesPath path = true := by decide +kernel
  have order : [first, last].filter (·.matchesPath path) = [first, last] := by simp [wanted]
  obtain ⟨_, _, _, absent⟩ := applyAll_in_sequence [first] path "0"
  obtain ⟨_, fails, _, _⟩ := applyAll_in_sequence [first, last] path "0"
  refine ⟨other, absent empty [last] other, (fails _).mpr ?_⟩
  refine ⟨[append "2", append "1", append "3"], _, [append "4"], "0213", "boom", by rw [order]; rfl, ?_, rfl, rfl, ?_⟩
  · exact .next rfl (.next rfl (.next rfl .nothing))
  · rw [applyAll_eq_runAll, stepsFor, order]
    rfl

end Rule

end Bundler
