/-! # Limits of a walk

A walk may be bounded in the number of nodes it visits and in the depth it goes to.  A bound that
is not given does not bound.

* `Limits.broken?` tells which bound the `position`-th visited node breaks at its depth; the
  number of nodes is judged first.
* `AnalysisError` are the ways in which an analysis fails, with their wording. -/

namespace Walkthrough

/-- The bounds on a walk. -/
structure Limits where
  maxDepth : Option Nat := none
  maxNodes : Option Nat := none
deriving DecidableEq, Repr

/-- The names of the bounds. -/
inductive LimitName where
  | maxDepth
  | maxNodes
deriving DecidableEq, Repr

/-- The word for a bound. -/
def LimitName.word : LimitName → String
  | maxDepth => "max_depth"
  | maxNodes => "max_nodes"

/-- The ways in which the analysis of a source text fails. -/
inductive AnalysisError where
  /-- the parser cannot be set up -/
  | parserSetup (reason : String)
  /-- the parser gives no tree -/
  | noTree
  /-- the walk breaks a bound -/
  | limitExceeded (limit : LimitName) (value : Nat)
deriving DecidableEq, Repr

/-- The wording of a failed analysis. -/
def AnalysisError.message : AnalysisError → String
  | parserSetup reason => "failed to configure C++ parser: " ++ reason
  | noTree => "parser produced no syntax tree"
  | limitExceeded limit value =>
    "traversal limit exceeded: " ++ limit.word ++ " = " ++ toString value

namespace Limits

/-- A walk without bounds. -/
def unbounded : Limits := {}

/-- The bound, with its value, that the `position`-th visited node breaks at its depth. -/
def broken? (l : Limits) (position depth : Nat) : Option (LimitName × Nat) :=
  match l.maxNodes.filter (· < position) with
  | some n => some (.maxNodes, n)
  | none => (l.maxDepth.filter (· < depth)).map fun d => (.maxDepth, d)

@[simp] theorem broken?_unbounded (position depth : Nat) :
    unbounded.broken? position depth = none := rfl

end Limits

end Walkthrough
