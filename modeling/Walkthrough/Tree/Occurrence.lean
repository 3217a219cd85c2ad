import Walkthrough.Tree.Node

/-! # Nodes where they stand

The same subtree may stand at several places of a tree.  An occurrence is a node together with the
nodes above it on the path of named children from the root, the parent first.

* `Node.occurrences` lists the nodes that are reachable from the root through named children, in
  pre-order: a node first, then what lies below each named child, from first to last.
* `Occurrence.Reachable` says the same without an order: the root is reachable, and so is every
  named child of a reachable node (`Occurrence.mem_preorder_iff`).
* `Occurrence.depth` counts the nodes above. -/

namespace Walkthrough

/-- A node with the nodes above it, the parent first. -/
structure Occurrence where
  node : Node
  above : List Node
deriving Repr

namespace Occurrence

/-- The number of steps from the root. -/
def depth (o : Occurrence) : Nat := o.above.length

/-- The occurrence of a named child. -/
def child (o : Occurrence) (n : Node) : Occurrence := ⟨n, o.node :: o.above⟩

/-- The occurrences of the named children, from first to last. -/
def next (o : Occurrence) : List Occurrence := o.node.namedChildren.map o.child

mutual

/-- The occurrences at and below a node that stands below the given nodes, in pre-order. -/
def belowAt (above : List Node) : Node → List Occurrence
  | .mk label children =>
    ⟨.mk label children, above⟩ :: belowAll (.mk label children :: above) children

/-- The occurrences at and below the named trees of a row, one tree after the other. -/
def belowAll (above : List Node) : List Node → List Occurrence
  | [] => []
  | n :: ns =>
    if n.label.named then belowAt above n ++ belowAll above ns else belowAll above ns

end

/-- The occurrences at and below an occurrence, in pre-order. -/
def preorder (o : Occurrence) : List Occurrence := belowAt o.above o.node

theorem belowAll_eq_flatMap (above ns : List Node) :
    belowAll above ns = (ns.filter (·.label.named)).flatMap (belowAt above) :=
  Node.eq_flatMap_named rfl (fun _ _ => rfl) ns

/-- An occurrence comes first, then what is below its named children, child after child. -/
theorem preorder_eq (o : Occurrence) : o.preorder = o :: o.next.flatMap preorder := by
  obtain ⟨⟨label, children⟩, above⟩ := o
  unfold preorder next
  rw [belowAt, belowAll_eq_flatMap, List.flatMap_map]
  rfl

/-- What is reachable from an occurrence: itself, and the named children of what is reachable. -/
inductive Reachable (o : Occurrence) : Occurrence → Prop
  | refl : Reachable o o
  | child {p : Occurrence} {n : Node} :
      Reachable o p → n ∈ p.node.namedChildren → Reachable o (p.child n)

theorem Reachable.trans {o p q : Occurrence} (h : o.Reachable p) (h' : p.Reachable q) :
    o.Reachable q := by
  induction h' with
  | refl => exact h
  | child _ hn ih => exact ih.child hn

theorem self_mem_preorder (o : Occurrence) : o ∈ o.preorder := by
  rw [preorder_eq]
  exact List.mem_cons_self

theorem reachable_of_mem_preorder {o p : Occurrence} (h : p ∈ o.preorder) : o.Reachable p := by
  obtain ⟨n, above⟩ := o
  induction n using Node.rec_namedChildren generalizing above with
  | step n ih =>
      rw [preorder_eq, List.mem_cons, List.mem_flatMap] at h
      rcases h with rfl | ⟨q, hq, h⟩
      · exact .refl
      · obtain ⟨m, hm, rfl⟩ := List.mem_map.mp hq
        exact (Reachable.refl.child hm).trans (ih m hm _ h)

/-- The pre-order goes on below every occurrence that it lists. -/
theorem child_mem_preorder {o p : Occurrence} {n : Node} (h : p ∈ o.preorder)
    (hn : n ∈ p.node.namedChildren) : p.child n ∈ o.preorder := by
  obtain ⟨m, above⟩ := o
  induction m using Node.rec_namedChildren generalizing above with
  | step m ih =>
      rw [preorder_eq, List.mem_cons, List.mem_flatMap] at h ⊢
      rcases h with rfl | ⟨q, hq, h⟩
      · exact .inr ⟨_, List.mem_map.mpr ⟨n, hn, rfl⟩, self_mem_preorder _⟩
      · obtain ⟨k, hk, rfl⟩ := List.mem_map.mp hq
        exact .inr ⟨_, hq, ih k hk _ h⟩

/-- The pre-order lists what is reachable. -/
theorem mem_preorder_iff {o p : Occurrence} : p ∈ o.preorder ↔ o.Reachable p := by
  constructor
  · exact reachable_of_mem_preorder
  · intro h
    induction h with
    | refl => exact self_mem_preorder o
    | child _ hn ih => exact child_mem_preorder ih hn

end Occurrence

/-- The root stands below nothing. -/
def Node.rootOccurrence (n : Node) : Occurrence := ⟨n, []⟩

/-- The nodes that are reachable from the root through named children, in pre-order. -/
def Node.occurrences (n : Node) : List Occurrence := n.rootOccurrence.preorder

end Walkthrough
