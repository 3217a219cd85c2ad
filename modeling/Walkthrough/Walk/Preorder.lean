import Walkthrough.Walk.Visit

/-! # The walk as a recursion

The order in which a walk visits the nodes of a tree is the pre-order over named children, and its
trace is a plain recursion over the tree.

* `Visit.preorder` lists the visits at and below one: itself, then those of each named child
  (`Visit.preorder_eq`);
* `Node.visits` are the visits of a whole tree;
* `Visit.collect` appends what a tree contributes to a trace: first its own records, then what each
  named child contributes, from first to last;
* `Visit.recorded` is the trace of the tree of a visit on its own (`Visit.recorded_eq`);
* `Node.recursiveTrace` collects a whole tree into the empty trace. -/

namespace Walkthrough

namespace Visit

mutual

/-- The visits of a tree at a given place, in pre-order. -/
def preorderAt (parent : Kind) (enclosing : Option String) (depth : Nat) : Node → List Visit
  | .mk label children =>
    let v : Visit := ⟨.mk label children, parent, enclosing, depth⟩
    v :: preorderAll v.node.kind v.scope (depth + 1) children

/-- The visits of the named trees of a row, one tree after the other. -/
def preorderAll (parent : Kind) (enclosing : Option String) (depth : Nat) :
    List Node → List Visit
  | [] => []
  | n :: ns =>
    if n.label.named then
      preorderAt parent enclosing depth n ++ preorderAll parent enclosing depth ns
    else preorderAll parent enclosing depth ns

end

/-- The visits at and below a visit, in pre-order. -/
def preorder (v : Visit) : List Visit := preorderAt v.parent v.enclosing v.depth v.node

theorem preorderAll_eq_flatMap (parent : Kind) (enclosing : Option String) (depth : Nat)
    (ns : List Node) :
    preorderAll parent enclosing depth ns =
      (ns.filter (·.label.named)).flatMap (preorderAt parent enclosing depth) :=
  Node.eq_flatMap_named rfl (fun _ _ => rfl) ns

/-- A visit comes first, then the visits of its named children, child after child. -/
theorem preorder_eq (v : Visit) : v.preorder = v :: v.next.flatMap preorder := by
  obtain ⟨⟨label, children⟩, parent, enclosing, depth⟩ := v
  unfold preorder next
  rw [preorderAt, preorderAll_eq_flatMap, List.flatMap_map]
  rfl

mutual

/-- What is recorded once a tree at a given place is walked: its own records are appended, then
its children are walked below its kind and its scope. -/
def collectAt (parent : Kind) (enclosing : Option String) (depth : Nat) (t : Trace) :
    Node → Trace
  | .mk label children =>
    let v : Visit := ⟨.mk label children, parent, enclosing, depth⟩
    collectAll v.node.kind v.scope (depth + 1) (t ++ v.records) children

/-- What is recorded once the named trees of a row are walked, from first to last. -/
def collectAll (parent : Kind) (enclosing : Option String) (depth : Nat) (t : Trace) :
    List Node → Trace
  | [] => t
  | n :: ns =>
    if n.label.named then
      collectAll parent enclosing depth (collectAt parent enclosing depth t n) ns
    else collectAll parent enclosing depth t ns

end

/-- What is recorded once the tree of a visit is walked, after what was recorded before it. -/
def collect (v : Visit) (t : Trace) : Trace := collectAt v.parent v.enclosing v.depth t v.node

mutual

theorem collectAt_eq_append (parent : Kind) (enclosing : Option String) (depth : Nat)
    (t : Trace) : ∀ n : Node, collectAt parent enclosing depth t n =
      t ++ Trace.concat ((preorderAt parent enclosing depth n).map records)
  | .mk label children => by
      rw [collectAt, preorderAt, collectAll_eq_append]
      simp only [List.map_cons, Trace.concat_cons, Trace.append_assoc]

theorem collectAll_eq_append (parent : Kind) (enclosing : Option String) (depth : Nat)
    (t : Trace) : ∀ ns : List Node, collectAll parent enclosing depth t ns =
      t ++ Trace.concat ((preorderAll parent enclosing depth ns).map records)
  | [] => by simp [collectAll, preorderAll]
  | n :: ns => by
      rw [collectAll, preorderAll]
      split
      · rw [collectAt_eq_append, collectAll_eq_append, List.map_append, Trace.concat_append,
          Trace.append_assoc]
      · exact collectAll_eq_append parent enclosing depth t ns

end

/-- Collecting a tree appends the records of its visits, in pre-order. -/
theorem collect_eq_append (v : Visit) (t : Trace) :
    v.collect t = t ++ Trace.concat (v.preorder.map records) :=
  collectAt_eq_append v.parent v.enclosing v.depth t v.node

/-- Each child contributes on its own: nothing of what a child's tree holds reaches its siblings. -/
theorem collect_eq (v : Visit) (t : Trace) :
    v.collect t = t ++ v.records ++ Trace.concat (v.next.map fun w => w.collect .empty) := by
  have hnext : ∀ w : Visit, w.collect .empty = Trace.concat (w.preorder.map records) := by
    intro w
    rw [collect_eq_append, Trace.empty_append]
  rw [collect_eq_append, preorder_eq, List.map_cons, Trace.concat_cons, List.map_flatMap,
    Trace.concat_flatMap, Trace.append_assoc]
  simp only [hnext]

/-- What is recorded at and below a visit. -/
def recorded (v : Visit) : Trace := .concat (v.preorder.map records)

theorem recorded_eq (v : Visit) :
    v.recorded = v.records ++ .concat (v.node.namedChildren.map fun n => (v.child n).recorded) := by
  unfold recorded
  rw [preorder_eq, List.map_cons, Trace.concat_cons, List.map_flatMap, Trace.concat_flatMap, next,
    List.map_map]
  rfl

end Visit

/-- The visits of a tree, in pre-order. -/
def Node.visits (n : Node) : List Visit := (Visit.root n).preorder

/-- The records of a tree, collected by recursion. -/
def Node.recursiveTrace (n : Node) : Trace := (Visit.root n).collect .empty

theorem Node.recursiveTrace_eq_concat (n : Node) :
    n.recursiveTrace = Trace.concat (n.visits.map Visit.records) := by
  rw [recursiveTrace, Visit.collect_eq_append, Trace.empty_append, visits]

theorem Node.recursiveTrace_eq_recorded (n : Node) : n.recursiveTrace = (Visit.root n).recorded :=
  n.recursiveTrace_eq_concat

end Walkthrough
