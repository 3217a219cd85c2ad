import Walkthrough.Walk.Limits
import Walkthrough.Walk.Visit

/-! # The walk

The trace of a tree is collected by a walk over a stack of pending visits: the topmost visit is
judged by the limits, its records are kept, and the visits of its named children take its place
on the stack, pushed from last to first.

* `Visit.push` puts visits on a stack one by one; `Visit.push_reverse` tells what lies on top.
* `walk` runs the stack down; `kept` holds the records so far, the latest first.
* `Node.trace` starts it at the root of a tree.
* Every step leaves fewer nodes pending (`Visit.pending_next_lt`), so the walk ends. -/

namespace Walkthrough

/-- Puts visits on a stack one by one; the last of them comes to lie on top. -/
def Visit.push (stack vs : List Visit) : List Visit := vs.foldl (fun s v => v :: s) stack

theorem Visit.push_reverse (stack vs : List Visit) : Visit.push stack vs.reverse = vs ++ stack := by
  simp [Visit.push]

/-- Runs a stack of visits down, where `visited` nodes are behind and `kept` holds their records,
the latest first. -/
def walk (limits : Limits) (visited : Nat) (kept : List Trace) :
    List Visit → Except AnalysisError Trace
  | [] => .ok (Trace.concat kept.reverse)
  | v :: rest =>
    match limits.broken? (visited + 1) v.depth with
    | some (limit, value) => .error (.limitExceeded limit value)
    | none => walk limits (visited + 1) (v.records :: kept) (Visit.push rest v.next.reverse)
termination_by stack => Visit.pending stack
decreasing_by
  have := Visit.pending_next_lt v
  rw [Visit.push_reverse, Visit.pending_append, Visit.pending]
  omega

/-- The trace of a tree, or the limit that its walk breaks. -/
def Node.trace (n : Node) (limits : Limits) : Except AnalysisError Trace :=
  walk limits 0 [] [Visit.root n]

end Walkthrough
