import Bundler.Proofs.Search.Run

/-!
The states that a search goes through. `after` stops the loop at its head, behind so many visits;
`run` is what has ended by then, and where a builder follows a catalogue the states are those that
the steps of the catalogue reach.
-/

namespace Bundler.Search

open Relation

section Definitions

variable {m : Type → Type} [Monad m] {ε : Type}

/-- A search after so many visits: where it is at the head of its loop, or what it came to before. -/
def after (builder : Builder m ε) : Nat → Search → m (Search ⊕ Except (SearchError ε) ModuleGraph)
  | 0, search => return .inl search
  | visits + 1, search => do
    match search.pending with
    | [] => return .inr (.ok search.graph)
    | next :: pending =>
      match ← search.visit builder pending next with
      | .error e => return .inr (.error e)
      | .ok search => after builder visits search

/-- A run takes the same visits, and says only whether the search has ended behind them. -/
theorem run_eq_after [LawfulMonad m] (builder : Builder m ε) (visits : Nat) (search : Search) :
    run builder visits search = Sum.getRight? <$> after builder visits search := by
  induction visits generalizing search with
  | zero => simp [run, after]
  | succ visits ih =>
    rw [run, after]
    cases search.pending with
    | nil => simp
    | cons now pending =>
      simp only [map_bind]
      refine bind_congr fun visited => ?_
      cases visited with
      | error e => simp
      | ok next => exact ih next

end Definitions

variable {ε σ : Type} {builder : Builder (StateM σ) ε} {catalogue : Catalogue ε}
  {keeps : List ModuleId → σ → Prop} {pending : List Visit} {now : Visit} {search next final : Search}
  {result : Except (SearchError ε) ModuleGraph} {w v : σ} {visits : Nat}

theorem after_visited (first : search.pending = now :: pending)
    (visited : (search.visit builder pending now).run w = (.ok next, v)) :
    (after builder (visits + 1) search).run w = (after builder visits next).run v := by
  rw [after, first]
  exact run_bind_of visited

theorem after_failed {e : SearchError ε} (first : search.pending = now :: pending)
    (failed : (search.visit builder pending now).run w = (.error e, v)) :
    (after builder (visits + 1) search).run w = (.inr (.error e), v) := by
  rw [after, first]
  exact run_bind_of failed

namespace Follows

theorem after_step (follows : Follows builder catalogue keeps) (here : keeps search.graph.ids w)
    (step : Step catalogue search next) :
    ∃ v, keeps next.graph.ids v ∧
      ∀ visits, (after builder (visits + 1) search).run w = (after builder visits next).run v := by
  obtain ⟨now, pending, v, first, visited, kept⟩ := follows.visit_step here step
  exact ⟨v, kept, fun _ => after_visited first visited⟩

theorem after_end (follows : Follows builder catalogue keeps) (here : keeps search.graph.ids w)
    (ends : Ends catalogue search result) :
    ∃ v, ∀ visits, (after builder (visits + 1) search).run w = (.inr result, v) := by
  cases result with
  | ok graph =>
    cases ends
    exact ⟨w, fun _ => rfl⟩
  | error e =>
    obtain ⟨now, pending, v, first, failed, _⟩ := follows.visit_error here ends
    exact ⟨v, fun _ => after_failed first failed⟩

/-- A state at the head of the loop is one that the steps of the catalogue reach. -/
theorem steps_of_after (follows : Follows builder catalogue keeps) (here : keeps search.graph.ids w)
    (reached : ((after builder visits search).run w).1 = .inl final) : Steps catalogue search final := by
  induction visits generalizing search w with
  | zero =>
    cases reached
    exact .refl
  | succ visits ih =>
    rcases step_or_ends catalogue search with ⟨next, step⟩ | ⟨result, ends⟩
    · obtain ⟨v, kept, goes⟩ := follows.after_step here step
      rw [goes] at reached
      exact .head step (ih kept reached)
    · obtain ⟨v, goes⟩ := follows.after_end here ends
      rw [goes] at reached
      cases reached

end Follows

end Bundler.Search
