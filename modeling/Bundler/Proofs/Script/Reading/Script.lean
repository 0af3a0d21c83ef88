import Bundler.Proofs.Script.Reading.Statement

/-!
Scripts go forth: in the tree of a source, the calls of `require` stand one behind another as they do in the text.
-/

namespace Bundler.Script

variable {g : Grammar} {source : String} {parsed : Parsed}

namespace Grammar

theorem exhausted_forth : exhausted.Forth where
  statement _ _ _ _ := .fail
  ifStatement _ _ := .fail
  assignment _ _ := .fail
  unary _ _ := .fail
  operators _ _ _ _ := .fail
  leftHand _ _ := .fail
  newExpression _ _ := .fail
  bindingPattern _ _ := .fail
  pattern _ _ _ := .fail

theorem Forth.step (forth : g.Forth) : g.step.Forth where
  statement _ _ := Parse.statement_reads forth
  ifStatement _ _ := Parse.ifStatement_onward forth
  assignment := Parse.assignment_reads forth
  unary := Parse.unary_reads forth
  operators _ _ _ _ := Parse.operators_onward forth
  leftHand := Parse.leftHand_reads forth
  newExpression := Parse.newExpression_reads forth
  bindingPattern := Parse.bindingPattern_reads forth
  pattern := Parse.patternOf_rereads forth

theorem Forth.raise (levels : Nat) (forth : g.Forth) : (Grammar.raise levels g).Forth := by
  induction levels generalizing g with
  | zero => exact forth
  | succ levels ih => exact ih forth.step

end Grammar

theorem script_onward (forth : g.Forth) :
    Parse.Onward (Reader.Carries 0 []) (script g) fun root r => Reader.Carries 0 [root] r ∧ root.kind = .script := by
  refine .state fun r => Parse.Onward.forget ?_
  extract_lets whole behind
  have goes (start : Nat) : Parse.Onward (Reader.Carries 0 []) (behind start) fun root r =>
      Reader.Carries 0 [root] r ∧ root.kind = .script :=
    (Parse.statements_reads forth).bind fun _ => Parse.lastEnd_rests.bind fun _ => .pure fun _ carries =>
      ⟨Reader.Carries.node rfl carries, rfl⟩
  exact .ite (fun _ => Parse.position_keeps.bind goes) fun _ => (Parse.Keeps.pure 0).bind goes

theorem skipInterpreter_carries (source : String) : Reader.Carries 0 [] (skipInterpreter (.start source)).2 := by
  unfold skipInterpreter
  split
  · exact ⟨⟨Nat.le_refl _, nofun⟩, .nil (Nat.zero_le _), nofun⟩
  · exact ⟨⟨Nat.le_refl _, nofun⟩, .nil (Nat.zero_le _), nofun⟩

/-- The tree of a source is that of a script, and left behind by the parser. -/
theorem exists_carries (parses : parse source = .ok parsed) :
    ∃ reader, Reader.Carries 0 [parsed.root] reader ∧ parsed.root.kind = .script := by
  have carries := skipInterpreter_carries source
  unfold parse at parses
  generalize skipInterpreter (.start source) = skipped at parses carries
  obtain ⟨interpreter, reader⟩ := skipped
  dsimp only at parses carries
  rcases ran : ((script (Grammar.raise (4 * reader.limit) .exhausted)).run {}).run.run reader with ⟨result, after⟩
  rw [ran] at parses
  dsimp only at parses
  split at parses
  · cases parses
  · cases parses
  · next root fine =>
    cases parses
    have forth : (Grammar.raise (4 * reader.limit) .exhausted).Forth := Grammar.exhausted_forth.raise _
    obtain ⟨_, gives⟩ := script_onward forth {} reader after (.ok root) ran (List.getLast?_eq_none_iff.mp fine)
    exact ⟨after, gives root rfl carries⟩

theorem kind_of_parse (parses : parse source = .ok parsed) : parsed.root.kind = .script :=
  (exists_carries parses).elim fun _ => And.right

/-- In the tree of a source, the calls of `require` stand in the order of the text. -/
theorem parse_sorted (parses : parse source = .ok parsed) : parsed.root.Sorted := by
  obtain ⟨reader, carries, _⟩ := exists_carries parses
  have within := carries.within
  rw [List.reverse_singleton, List.flatMap_singleton] at within
  exact List.pairwise_map.mp (within.sublist (List.sublist_append_right _ _)).sorted

end Bundler.Script
