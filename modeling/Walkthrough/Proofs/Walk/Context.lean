import Mathlib.Data.List.Basic
import Walkthrough.Proofs.Walk.Recursion
import Walkthrough.Tree.Occurrence

/-! # Context from the nodes above

A walk carries a context along and never looks back at the nodes above.  What it carries is what
those nodes tell: the kind of the parent, the name that the innermost function definition above
declares, and the number of nodes above.

* `Occurrence.visit` is the visit that the nodes above an occurrence call for.
* `Node.visits_eq`: the visits of a tree are those of its occurrences, in the same order.
* `Node.callStack_eq_selfCalls`: a frame is recorded for a call if and only if the innermost
  function around it has the name of what it calls. -/

namespace Walkthrough

/-- The name that a function definition declares, if it has a declarator. -/
def Node.definedName? (n : Node) : Option String := (n.byField? "declarator").map functionName

namespace Occurrence

/-- The innermost function definition above. -/
def function? (o : Occurrence) : Option Node := o.above.find? (·.kind == .functionDefinition)

/-- The visit of a node, with the context that the nodes above it give. -/
def visit (o : Occurrence) : Visit where
  node := o.node
  parent := (o.above.head?.map Node.kind).getD .other
  enclosing := o.function?.bind Node.definedName?
  depth := o.depth

theorem scope_visit (o : Occurrence) (n : Node) :
    o.visit.scope = (o.child n).function?.bind Node.definedName? := by
  unfold Visit.scope function? child
  rw [List.find?_cons]
  split
  · rename_i h
    have hk : o.node.kind = .functionDefinition := h
    rw [hk]
    rfl
  · rename_i h
    have hk : (o.node.kind == .functionDefinition) = false := beq_false_of_ne h
    rw [hk]
    rfl

theorem visit_child (o : Occurrence) (n : Node) : (o.child n).visit = o.visit.child n := by
  unfold Visit.child
  rw [scope_visit o n]
  rfl

theorem visit_next (o : Occurrence) : o.visit.next = o.next.map visit := by
  unfold Visit.next next
  rw [List.map_map]
  apply List.map_congr_left
  intro n _
  exact (visit_child o n).symm

/-- What a walk carries to each node below is what the nodes above it give. -/
theorem preorder_visit (o : Occurrence) : o.visit.preorder = o.preorder.map visit := by
  obtain ⟨n, above⟩ := o
  induction n using Node.rec_namedChildren generalizing above with
  | step n ih =>
      rw [Visit.preorder_eq, preorder_eq, visit_next, List.map_cons, List.map_flatMap,
        List.flatMap_map]
      congr 1
      apply List.flatMap_congr
      intro p hp
      obtain ⟨m, hm, rfl⟩ := List.mem_map.mp hp
      exact ih m hm _

end Occurrence

theorem Node.visits_eq (n : Node) : n.visits = n.occurrences.map Occurrence.visit :=
  Occurrence.preorder_visit n.rootOccurrence

/-! ### Calls of a function from its own body -/

namespace Occurrence

/-- The frame of a call: the text of its first child, of its arguments, and its line. -/
def frame (o : Occurrence) : CallFrame where
  function := ((o.node.child? 0).map Node.text).getD "unknown"
  args := (o.node.byField? "arguments").map Node.text
  line := o.node.label.row + 1

/-- A call whose innermost function definition above declares the name that is called.  Function
definitions further out do not count, and neither do those that do not lie above. -/
def IsSelfCall (o : Occurrence) : Prop :=
  o.node.kind = .callExpression ∧
    ∃ inner f outer declarator, o.above = inner ++ f :: outer ∧
      (∀ m ∈ inner, m.kind ≠ .functionDefinition) ∧ f.kind = .functionDefinition ∧
      f.byField? "declarator" = some declarator ∧ functionName declarator = o.frame.function

theorem function?_eq_some_iff {o : Occurrence} {f : Node} :
    o.function? = some f ↔ ∃ inner outer, o.above = inner ++ f :: outer ∧
      (∀ m ∈ inner, m.kind ≠ .functionDefinition) ∧ f.kind = .functionDefinition := by
  unfold function?
  rw [List.find?_eq_some_iff_append]
  simp only [beq_iff_eq, Bool.not_eq_eq_eq_not, Bool.not_true, beq_eq_false_iff_ne]
  constructor
  · rintro ⟨hf, inner, outer, ha, hi⟩
    exact ⟨inner, outer, ha, hi, hf⟩
  · rintro ⟨inner, outer, ha, hi, hf⟩
    exact ⟨hf, inner, outer, ha, hi⟩

/-- The nearest-definition rule and the name that is carried along agree. -/
theorem isSelfCall_iff (o : Occurrence) :
    o.IsSelfCall ↔ o.node.kind = .callExpression ∧
      o.visit.enclosing = some o.frame.function := by
  unfold IsSelfCall
  refine and_congr_right fun _ => ?_
  show _ ↔ o.function?.bind Node.definedName? = some o.frame.function
  rw [Option.bind_eq_some_iff]
  simp only [function?_eq_some_iff, Node.definedName?, Option.map_eq_some_iff]
  constructor
  · rintro ⟨inner, f, outer, d, ha, hi, hf, hd, hn⟩
    exact ⟨f, ⟨inner, outer, ha, hi, hf⟩, d, hd, hn⟩
  · rintro ⟨f, ⟨inner, outer, ha, hi, hf⟩, d, hd, hn⟩
    exact ⟨inner, f, outer, d, ha, hi, hf, hd, hn⟩

instance : DecidablePred IsSelfCall := fun o => decidable_of_iff' _ (isSelfCall_iff o)

end Occurrence

theorem Visit.records_callStack (v : Visit) :
    v.records.callStack =
      if v.node.kind = .callExpression ∧ v.enclosing = some (callee v.node) then
        [⟨callee v.node, v.node.fieldText? "arguments", v.node.line⟩]
      else [] := by
  by_cases hk : v.node.kind = .callExpression
  · simp only [records, hk, call, true_and]
  · rw [if_neg fun h => hk h.1]
    unfold records
    split
    · simp only [declaration]; split <;> rfl
    · simp only [assignment]; split
      · split <;> rfl
      · rfl
    · simp only [definition]; split <;> rfl
    case h_6 h => exact absurd h hk
    all_goals rfl

theorem Occurrence.records_visit_callStack (o : Occurrence) :
    o.visit.records.callStack = if o.IsSelfCall then [o.frame] else [] := by
  rw [Visit.records_callStack]
  exact if_congr o.isSelfCall_iff.symm rfl rfl

theorem flatMap_ite_singleton {α β : Type} (p : α → Prop) [DecidablePred p] (f : α → β)
    (as : List α) :
    (as.flatMap fun a => if p a then [f a] else []) = (as.filter fun a => p a).map f := by
  induction as with
  | nil => rfl
  | cons a as ih =>
      by_cases h : p a
      · simp [h, ih]
      · simp [h, ih]

namespace Node

theorem callStack_recursiveTrace (n : Node) :
    n.recursiveTrace.callStack =
      (n.occurrences.filter fun o => o.IsSelfCall).map Occurrence.frame := by
  rw [recursiveTrace_eq_concat, visits_eq, List.map_map]
  show (n.occurrences.map (Visit.records ∘ Occurrence.visit)).flatMap (·.callStack) = _
  rw [List.flatMap_map, ← flatMap_ite_singleton]
  apply List.flatMap_congr
  intro o _
  exact o.records_visit_callStack

/-- **Self-recursion is name equality with the innermost function**: without bounds, the call stack
holds the frames of the self-calls of the tree, in pre-order, and nothing else. -/
theorem callStack_eq_selfCalls (n : Node) :
    ∃ t, n.trace .unbounded = .ok t ∧
      t.callStack = (n.occurrences.filter fun o => o.IsSelfCall).map Occurrence.frame :=
  ⟨n.recursiveTrace, n.trace_unbounded, n.callStack_recursiveTrace⟩

end Node

end Walkthrough
