import Bundler.Build.Output

/-!
Work on two hosts. What holds between the calls of the hosts, and between works whose parts it holds between, holds
between writes of bundles.
-/

namespace Bundler

variable {m n : Type → Type} [Monad m] [Monad n] [Host m] [Host n]

/-- A relation between works on two hosts that can be told from their parts. -/
structure Host.Related (R : (α : Type) → m α → n α → Prop) : Prop where
  pure : ∀ {α : Type} (a : α), R α (Pure.pure a) (Pure.pure a)
  bind : ∀ {α β : Type} {work : m α} {work' : n α} {go : α → m β} {go' : α → n β},
    R α work work' → (∀ a, R β (go a) (go' a)) → R β (work >>= go) (work' >>= go')
  log : ∀ line, R Unit (Host.log line) (Host.log line)

/-- Such a relation that holds between the calls that a write makes. -/
structure Host.RelatedWrites (R : (α : Type) → m α → n α → Prop) : Prop extends Host.Related R where
  isPresent : ∀ path, R _ (Host.isPresent path) (Host.isPresent path)
  createDirs : ∀ path, R _ (Host.createDirs path) (Host.createDirs path)
  createFreshDir : ∀ path start, R _ (Host.createFreshDir path start) (Host.createFreshDir path start)
  writeText : ∀ path text, R _ (Host.writeText path text) (Host.writeText path text)
  rename : ∀ old new, R _ (Host.rename old new) (Host.rename old new)
  removeTree : ∀ path, R _ (Host.removeTree path) (Host.removeTree path)

variable {R : (α : Type) → m α → n α → Prop}

namespace Output

variable (related : Host.RelatedWrites R) (output : Output)

include related

theorem moveAside_related : R _ output.moveAside output.moveAside := by
  refine related.bind (related.isPresent _) fun present => ?_
  split
  · exact related.pure _
  refine related.bind (related.log _) fun _ => related.bind (related.createFreshDir _ _) fun made => ?_
  cases made with
  | error e => exact related.pure _
  | ok holder =>
    refine related.bind (related.rename _ _) fun moved => ?_
    cases moved with
    | error e => exact related.bind (related.removeTree _) fun _ => related.pure _
    | ok _ => exact related.pure _

theorem restore_related (holder : Path) (install : FileError) :
    R _ (output.restore holder install) (output.restore holder install) := by
  refine related.bind (related.rename _ _) fun moved => ?_
  cases moved with
  | error e => exact related.pure _
  | ok _ => exact related.bind (related.removeTree _) fun _ => related.pure _

theorem swap_related (staged : Path) : R _ (output.swap staged) (output.swap staged) := by
  refine related.bind (moveAside_related related output) fun moved => ?_
  cases moved with
  | error e => exact related.pure _
  | ok holder =>
    refine related.bind (related.rename _ _) fun installed => ?_
    match installed, holder with
    | .ok _, none => exact related.bind (related.pure _) fun _ => related.pure _
    | .ok _, some _ => exact related.bind (related.removeTree _) fun _ => related.pure _
    | .error _, none => exact related.pure _
    | .error e, some holder => exact related.bind (restore_related related output holder e) fun _ => related.pure _

theorem stage_related (staging : Path) (bundle : String) :
    R _ (output.stage staging bundle) (output.stage staging bundle) := by
  refine related.bind (related.createDirs _) fun made => ?_
  cases made with
  | error e => exact related.pure _
  | ok _ =>
    refine related.bind (related.writeText _ _) fun wrote => ?_
    cases wrote with
    | error e => exact related.pure _
    | ok _ => exact swap_related related output _

theorem write_related (bundle : String) : R _ (output.write bundle) (output.write bundle) := by
  refine related.bind (related.createDirs _) fun madeDirs => ?_
  cases madeDirs with
  | error e => exact related.pure _
  | ok _ =>
    refine related.bind (related.createFreshDir _ _) fun made => ?_
    cases made with
    | error e => exact related.pure _
    | ok staging =>
      exact related.bind (stage_related related output staging bundle) fun _ =>
        related.bind (related.removeTree _) fun _ => related.pure _

theorem emit_related (graph : ModuleGraph) (root : Path) : R _ (output.emit graph root) (output.emit graph root) := by
  unfold emit
  split
  · exact related.pure _
  · exact related.pure _
  · refine related.bind (related.log _) fun _ => related.bind (write_related related output _) fun written => ?_
    cases written with
    | error e => exact related.pure _
    | ok _ => exact related.bind (related.log _) fun _ => related.pure _

end Output

end Bundler
