import Bundler.Script.Syntax

/-!
Trees as a whole: their nodes in the order in which they are visited, a change made at every node, and induction
over all nodes below one.
-/

namespace Bundler.Script.Node

variable {α : Type} {kind : Kind} {lo hi : Nat} {children : List Node}

@[simp] theorem kind_mk : (mk kind lo hi children).kind = kind := rfl

@[simp] theorem children_mk : (mk kind lo hi children).children = children := rfl

theorem induction {motive : Node → Prop}
    (mk : ∀ kind lo hi children, (∀ n ∈ children, motive n) → motive (.mk kind lo hi children)) (n : Node) : motive n :=
  n.rec (motive_2 := fun ns => ∀ m ∈ ns, motive m) mk (by simp) fun _ _ first rest => by
    simpa using ⟨first, rest⟩

theorem foldAll_eq (f : Node → List (Node × α) → α) (ns : List Node) :
    foldAll f ns = ns.map fun n => (n, n.fold f) := by
  induction ns with
  | nil => simp [foldAll]
  | cons n rest ih => simp [foldAll, ih]

theorem fold_mk (f : Node → List (Node × α) → α) :
    (mk kind lo hi children).fold f = f (mk kind lo hi children) (children.map fun n => (n, n.fold f)) := by
  rw [fold, foldAll_eq]

/-- The nodes of a tree, each before those below it. -/
def nodes (n : Node) : List Node := n.fold fun n below => n :: (below.map (·.2)).flatten

/-- The tree with `f` done to every node, behind those below it. -/
def map (f : Node → Node) (n : Node) : Node := n.fold fun n below => f (.mk n.kind n.lo n.hi (below.map (·.2)))

theorem nodes_mk : (mk kind lo hi children).nodes = mk kind lo hi children :: children.flatMap nodes := by
  rw [nodes, fold_mk, List.map_map, List.flatMap_def]
  rfl

theorem map_mk (f : Node → Node) : (mk kind lo hi children).map f = f (mk kind lo hi (children.map (map f))) := by
  rw [map, fold_mk, List.map_map]
  rfl

/-- What changes no kinds keeps them. -/
theorem kind_map {f : Node → Node} (keeps : ∀ n, (f n).kind = n.kind) (n : Node) : (n.map f).kind = n.kind := by
  obtain ⟨kind, lo, hi, children⟩ := n
  rw [map_mk, keeps]
  rfl

end Bundler.Script.Node
