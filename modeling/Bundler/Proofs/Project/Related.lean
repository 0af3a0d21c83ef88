import Bundler.Build.Project
import Bundler.Proofs.Build.Related

/-!
Searches on two hosts: what holds between the calls of the hosts, and between works whose parts it holds between, holds
between searches for modules.
-/

namespace Bundler

variable {m n : Type → Type} [Monad m] [Monad n] [Host m] [Host n] {R : (α : Type) → m α → n α → Prop}
  (related : Host.Related R)

include related

theorem Host.Related.log_all {α : Type} (items : List α) (line : α → LogLine) :
    R _ (items.forM fun item => Host.log (line item)) (items.forM fun item => Host.log (line item)) := by
  induction items with
  | nil => exact related.pure _
  | cons item rest ih => exact related.bind (related.log _) fun _ => ih

section Search

variable {ε : Type} {builder : Builder m ε} {builder' : Builder n ε}
  (builds : ∀ id, R _ (builder.build id) (builder'.build id)) (tells : ∀ note, R _ (builder.tell note) (builder'.tell note))

include builds tells

theorem Search.visit_related (search : Search) (pending : List Visit) (next : Visit) :
    R _ (search.visit builder pending next) (search.visit builder' pending next) := by
  cases next with
  | leave =>
    unfold visit
    refine related.bind ?_ fun _ => related.pure _
    cases search.active.head? with
    | none => exact related.pure _
    | some id => exact tells _
  | enter id importer =>
    unfold visit
    dsimp only
    split
    · exact related.pure _
    split
    · exact related.bind (tells _) fun _ => related.pure _
    refine related.bind (builds id) fun built => ?_
    cases built with
    | error e => exact related.pure _
    | ok built => exact related.pure _

theorem Search.run_related (steps : Nat) (search : Search) : R _ (run builder steps search) (run builder' steps search) := by
  induction steps generalizing search with
  | zero => exact related.pure _
  | succ steps ih =>
    rw [run, run]
    cases search.pending with
    | nil => exact related.pure _
    | cons next pending =>
      refine related.bind (visit_related related builds tells search pending next) fun visited => ?_
      cases visited with
      | error e => exact related.pure _
      | ok search => exact ih search

end Search

namespace Project

variable (reads : ∀ path, R _ (Host.readText path) (Host.readText path))

include reads

theorem load_related (rules : List Rule) (path : Path) : R _ (Rule.load rules path) (Rule.load rules path) := by
  unfold Rule.load
  refine related.bind (reads path) fun read => ?_
  cases read with
  | error e => exact related.pure _
  | ok source =>
    exact related.bind (related.bind (related.log_all _ _) fun _ => related.pure _) fun _ => related.pure _

theorem build_related (project : Project) (id : ModuleId) : R _ (project.build id) (project.build id) := by
  unfold build
  refine related.bind (load_related related reads _ _) fun loaded => ?_
  cases loaded with
  | error e => exact related.pure _
  | ok source =>
    refine related.bind (related.log_all _ _) fun _ => ?_
    split
    · exact related.pure _
    · exact related.bind (related.log _) fun _ => related.pure _

theorem graphWithin_related (project : Project) (steps : Nat) (entry : Path) :
    R _ (project.graphWithin steps entry) (project.graphWithin steps entry) := by
  unfold graphWithin
  cases ModuleId.fromPath entry project.root with
  | error e => exact related.pure _
  | ok id =>
    have tells (note : SearchNote) : R _ (project.builder.tell note) (project.builder.tell note) := by
      cases note with
      | finished id => exact related.log _
      | skipped id => exact related.log _
    refine related.bind (related.log _) fun _ =>
      related.bind (Search.run_related related (build_related related reads project) tells _ _) fun found => ?_
    match found with
    | none => exact related.pure _
    | some (.error e) => exact related.pure _
    | some (.ok graph) => exact related.bind (related.log _) fun _ => related.pure _

end Project

end Bundler
