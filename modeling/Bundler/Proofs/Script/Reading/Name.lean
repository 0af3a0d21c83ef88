import Bundler.Proofs.Script.Reading.Basic

/-!
Names go forth.
-/

namespace Bundler.Script.Parse

open Reader

variable {g : Grammar} {lo : Nat} {stack : List Node} {allowYield allowAwait required : Bool}

theorem text_ne_requireName (word : Keyword) : word.text ≠ requireName := by cases word <;> decide

theorem identifier_reads : Reads (identifier allowYield allowAwait) := by
  refine Reads.positioned fun start => .surroundings fun context => require_onward.bind fun token => ?_
  split
  · exact advance_ident.bind fun _ => noteLastIf_onward (noteLastIf_onward name_onward)
  · next word =>
    refine (advance_keeps.bind fun _ => ?_).forget
    split
    · exact otherName_onward (text_ne_requireName _)
    · refine .ite (fun _ => failHere_onward) fun _ => .ite (fun _ => lastStart_rests.bind fun _ => failAt_onward) fun _ => ?_
      exact .ite (fun _ => otherName_onward (text_ne_requireName _)) fun _ => lastStart_rests.bind fun _ => failAt_onward
    · exact .ite (fun _ => otherName_onward (text_ne_requireName _)) fun _ => lastStart_rests.bind fun _ => failAt_onward
    · exact lastStart_rests.bind fun _ => failAt_onward
  · exact failHere_onward

theorem bindingName_reads : Reads bindingName := fun lo stack => by
  refine identifier_reads.bind fun found => .surroundings fun context => ?_
  split
  · exact noteAt_rests.when (.pure fun _ => id)
  · exact noteAt_rests.when (.pure fun _ => id)
  · exact .pure fun _ => id

theorem absent_reads : Reads (pure .none) := fun _ _ => .pure fun _ => Carries.absent

theorem bindingName?_reads : Reads (bindingName? required) := fun lo stack => by
  cases required
  · exact isAtBindable_keeps.bind fun _ => .ite (fun _ => bindingName_reads lo stack) fun _ => absent_reads lo stack
  · exact isAtBindable_keeps.bind fun _ => .ite (fun _ => bindingName_reads lo stack) fun _ => absent_reads lo stack

theorem reference_reads : Reads reference := fun lo stack => .surroundings fun _ => identifier_reads lo stack

theorem word_reads : Reads word := by
  refine Reads.positioned fun start => require_onward.bind fun token => ?_
  split
  · exact advance_ident.bind fun _ => name_onward
  · exact (advance_keeps.bind fun _ => otherName_onward (text_ne_requireName _)).forget
  · exact failHere_onward

theorem privateName_reads : Reads privateName := fun lo stack => by
  refine position_keeps.bind fun start => advance_keeps.bind fun _ => lastEnd_rests.bind fun hashEnd => ?_
  refine position_keeps.bind fun behind => failAt_rests.when ?_
  refine word_reads.bind fun found => ?_
  split
  · exact (node_onward rfl).given fun _ => Carries.drop
  · exact (node_onward rfl).given fun _ => Carries.drop

theorem propertyKey_reads (forth : g.Forth) : Reads (propertyKey g) := fun lo stack => by
  refine position_keeps.bind fun start => require_keeps.bind fun token => ?_
  split
  · exact advance_keeps.bind fun _ => node_onward rfl
  · exact advance_keeps.bind fun _ => node_onward rfl
  · exact advance_keeps.bind fun _ => node_onward rfl
  · exact word_reads lo stack
  · exact word_reads lo stack
  · exact advance_keeps.bind fun _ => forth.assignment.within.bind fun _ => expect_keeps.bind fun _ => node_onward rfl
  · exact unexpected_onward

theorem memberKey_reads (forth : g.Forth) : Reads (memberKey g) := fun lo stack => by
  refine isAtMark_keeps.bind fun _ => .ite (fun _ => ?_) fun _ => propertyKey_reads forth lo stack
  exact privateName_reads.bind fun key => noteAt_rests.when (.pure fun _ => id)

end Bundler.Script.Parse
