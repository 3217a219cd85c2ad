import Walkthrough.Walk.Preorder
import Walkthrough.Walk.Trace

/-! # The stack and the recursion

A walk over a stack of pending visits does what the recursion over named children does.  The
invariant behind it speaks of an arbitrary stack (`walk_eq`): what is still to be visited is the
pre-order of each pending visit, from the topmost one down, whatever context each of them carries.

* `Limits.firstBroken?` judges visits in a row, each by its position and its depth.
* `Node.trace_eq` reads the outcome of a walk off the visits of its tree.
* `Node.trace_unbounded_eq_recursion`: without bounds, the walk ends with the trace that the
  recursion collects, and each child contributes to it on its own. -/

namespace Walkthrough

namespace Limits

/-- The first bound that is broken by visits in a row, when some nodes are behind. -/
def firstBroken? (l : Limits) (visited : Nat) (vs : List Visit) : Option (LimitName × Nat) :=
  (vs.zipIdx (visited + 1)).findSome? fun p => l.broken? p.2 p.1.depth

theorem firstBroken?_cons (l : Limits) (visited : Nat) (v : Visit) (vs : List Visit) :
    l.firstBroken? visited (v :: vs) =
      (l.broken? (visited + 1) v.depth).or (l.firstBroken? (visited + 1) vs) := by
  simp only [firstBroken?, List.zipIdx_cons, List.findSome?_cons]
  cases l.broken? (visited + 1) v.depth with
  | none => rfl
  | some p => rfl

theorem firstBroken?_map {f : Visit → Visit} (hf : ∀ v, (f v).depth = v.depth) (l : Limits)
    (visited : Nat) (vs : List Visit) :
    l.firstBroken? visited (vs.map f) = l.firstBroken? visited vs := by
  induction vs generalizing visited with
  | nil => rfl
  | cons v vs ih => rw [List.map_cons, firstBroken?_cons, firstBroken?_cons, hf, ih]

theorem firstBroken?_unbounded (visited : Nat) (vs : List Visit) :
    unbounded.firstBroken? visited vs = none := by
  unfold firstBroken?
  rw [List.findSome?_eq_none_iff]
  intro p _
  rfl

end Limits

/-- The visits that a stack still leads to. -/
def Visit.ahead (stack : List Visit) : List Visit := stack.flatMap preorder

theorem Visit.ahead_cons (v : Visit) (rest : List Visit) :
    ahead (v :: rest) = v :: ahead (v.next ++ rest) := by
  simp only [ahead, List.flatMap_cons, List.flatMap_append]
  rw [preorder_eq v, List.cons_append]

/-- The verdict on a walk: the first broken bound, or the records of all visits. -/
def verdict (broken : Option (LimitName × Nat)) (records : List Trace) :
    Except AnalysisError Trace :=
  match broken with
  | some (limit, value) => .error (.limitExceeded limit value)
  | none => .ok (Trace.concat records)

/-- **Every stack is run down in pre-order**: the outcome of a walk depends on the visits that the
stack leads to, in the order in which the recursion lists them. -/
theorem walk_eq (limits : Limits) (visited : Nat) (kept : List Trace) (stack : List Visit) :
    walk limits visited kept stack =
      verdict (limits.firstBroken? visited (Visit.ahead stack))
        (kept.reverse ++ (Visit.ahead stack).map Visit.records) := by
  -- The stack shrinks by the measure of the walk, so the induction is the walk's own.
  fun_induction walk limits visited kept stack with
  | case1 visited kept => simp [Visit.ahead, Limits.firstBroken?, verdict]
  | case2 visited kept v rest limit value h =>
      rw [Visit.ahead_cons, Limits.firstBroken?_cons, h]
      rfl
  | case3 visited kept v rest h ih =>
      rw [ih, Visit.push_reverse, Visit.ahead_cons, Limits.firstBroken?_cons, h, Option.none_or,
        List.reverse_cons, List.map_cons, List.append_assoc, List.singleton_append]

namespace Node

theorem trace_eq (n : Node) (limits : Limits) :
    n.trace limits =
      verdict (limits.firstBroken? 0 n.visits) (n.visits.map Visit.records) := by
  rw [trace, walk_eq]
  simp [Visit.ahead, visits]

theorem trace_eq_ok_of_firstBroken?_eq_none {n : Node} {limits : Limits}
    (h : limits.firstBroken? 0 n.visits = none) :
    n.trace limits = .ok n.recursiveTrace := by
  rw [trace_eq, h, recursiveTrace_eq_concat]
  rfl

theorem eq_recursiveTrace_of_trace_eq_ok {n : Node} {limits : Limits} {t : Trace}
    (h : n.trace limits = .ok t) : t = n.recursiveTrace := by
  rw [trace_eq] at h
  cases hb : limits.firstBroken? 0 n.visits with
  | some p => rw [hb] at h; cases h
  | none =>
      rw [hb] at h
      cases h
      rw [recursiveTrace_eq_concat]

theorem trace_unbounded (n : Node) : n.trace .unbounded = .ok n.recursiveTrace :=
  trace_eq_ok_of_firstBroken?_eq_none (Limits.firstBroken?_unbounded 0 _)

/-- **The walk over the stack is the recursion**: without bounds it ends with the trace that the
recursion collects.  The recursion appends the records of a node and then what each named child
contributes, from first to last; a child is given the kind of the node and its scope, and what it
contributes does not depend on its siblings. -/
theorem trace_unbounded_eq_recursion (n : Node) :
    n.trace .unbounded = .ok n.recursiveTrace ∧
      ∀ (v : Visit) (t : Trace), v.collect t =
        t ++ v.records ++ Trace.concat (v.node.namedChildren.map fun m =>
          Visit.collect ⟨m, v.node.kind, v.scope, v.depth + 1⟩ .empty) := by
  refine ⟨n.trace_unbounded, ?_⟩
  intro v t
  rw [v.collect_eq t, Visit.next, List.map_map]
  rfl

end Node

end Walkthrough
