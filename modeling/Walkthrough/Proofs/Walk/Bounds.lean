import Mathlib.Tactic.ByContra
import Walkthrough.Proofs.Walk.Context

/-! # What bounds do

A bounded walk ends with the trace of the unbounded one or with the first broken bound.  Which of
the two it is can be told from the pre-order of the tree alone: the node at position `p`, the root
being at position 1, offends the bound on the number of nodes if it is less than `p`, and the bound
on the depth if it is less than the depth of the node.

* `Node.positions` lists the nodes with their positions.
* `Limits.Offends` and `Limits.Names` say when a node offends a bound, and which one is reported.
* `Limits.Admits` holds of a tree with no more and no deeper nodes than the bounds allow.
* `Node.trace_limits_exact`: the bounds are exact, the first offending node is the one reported,
  and looser bounds change nothing once a walk succeeds. -/

namespace Walkthrough

/-- The nodes of a tree in pre-order with their positions; the root is at position 1. -/
def Node.positions (n : Node) : List (Occurrence × Nat) := n.occurrences.zipIdx 1

theorem Node.mem_positions_iff {n : Node} {o : Occurrence} {position : Nat} :
    (o, position) ∈ n.positions ↔ 0 < position ∧ n.occurrences[position - 1]? = some o := by
  unfold positions
  rw [List.mk_mem_zipIdx_iff_le_and_getElem?_sub]
  rfl

theorem Node.positions_le_length {n : Node} {o : Occurrence} {position : Nat}
    (h : (o, position) ∈ n.positions) : position ≤ n.occurrences.length := by
  obtain ⟨hpos, hget⟩ := mem_positions_iff.mp h
  have := (List.getElem?_eq_some_iff.mp hget).1
  omega

theorem Node.exists_last_position (n : Node) : ∃ o, (o, n.occurrences.length) ∈ n.positions := by
  have hpos : 0 < n.occurrences.length :=
    List.length_pos_of_mem n.rootOccurrence.self_mem_preorder
  exact ⟨_, mem_positions_iff.mpr
    ⟨hpos, List.getElem?_eq_getElem (Nat.sub_one_lt_of_lt hpos)⟩⟩

theorem Node.exists_position {n : Node} {o : Occurrence} (h : o ∈ n.occurrences) :
    ∃ position, (o, position) ∈ n.positions := by
  obtain ⟨i, hi⟩ := List.mem_iff_getElem?.mp h
  exact ⟨i + 1, mem_positions_iff.mpr ⟨Nat.succ_pos i, hi⟩⟩

namespace Limits

/-- The node at a position and a depth offends a bound that has the given value. -/
def Offends (l : Limits) (position depth : Nat) : LimitName → Nat → Prop
  | .maxNodes, value => l.maxNodes = some value ∧ value < position
  | .maxDepth, value => l.maxDepth = some value ∧ value < depth

/-- The bound that is reported for an offending node: of two, the one on the number of nodes. -/
def Names (l : Limits) (position depth : Nat) (limit : LimitName) (value : Nat) : Prop :=
  l.Offends position depth limit value ∧
    (limit = .maxDepth → ∀ m, ¬ l.Offends position depth .maxNodes m)

/-- The tree has no more nodes than allowed, and none is deeper than allowed. -/
def Admits (l : Limits) (n : Node) : Prop :=
  (∀ m, l.maxNodes = some m → n.occurrences.length ≤ m) ∧
    ∀ m, l.maxDepth = some m → ∀ o ∈ n.occurrences, o.depth ≤ m

/-- The other bounds are raised or removed. -/
def LooserThan (l' l : Limits) : Prop :=
  (∀ m', l'.maxNodes = some m' → ∃ m, l.maxNodes = some m ∧ m ≤ m') ∧
    ∀ m', l'.maxDepth = some m' → ∃ m, l.maxDepth = some m ∧ m ≤ m'

variable (l : Limits) (position depth : Nat)

theorem filter_lt_eq_some_iff {bound : Option Nat} {k value : Nat} :
    bound.filter (· < k) = some value ↔ bound = some value ∧ value < k := by
  rw [Option.filter_eq_some_iff, decide_eq_true_iff]

/-- The judgement of a node reports the bound that `Names` does. -/
theorem broken?_eq_some_iff (limit : LimitName) (value : Nat) :
    l.broken? position depth = some (limit, value) ↔ l.Names position depth limit value := by
  unfold broken? Names
  cases hm : l.maxNodes.filter (· < position) with
  | some m =>
      have ho : l.Offends position depth .maxNodes m := filter_lt_eq_some_iff.mp hm
      cases limit with
      | maxNodes =>
          have hu : l.Offends position depth .maxNodes value ↔ m = value := by
            refine ⟨fun h => ?_, fun h => h ▸ ho⟩
            exact Option.some.inj (ho.1.symm.trans h.1)
          simp [hu]
      | maxDepth =>
          constructor
          · intro h; cases h
          · rintro ⟨_, h⟩
            exact absurd ho (h rfl m)
  | none =>
      have hn : ∀ m, ¬ l.Offends position depth .maxNodes m := by
        intro m h
        rw [filter_lt_eq_some_iff.mpr h] at hm
        cases hm
      cases limit with
      | maxNodes => simp [hn]
      | maxDepth =>
          have hd : l.maxDepth.filter (· < depth) = some value ↔
              l.Offends position depth .maxDepth value := filter_lt_eq_some_iff
          simp only [Option.map_eq_some_iff, Prod.mk.injEq, true_and, exists_eq_right, hd, hn,
            not_false_eq_true, implies_true, and_true]

/-- A node that breaks both bounds breaks the one on the number of nodes. -/
example : broken? ⟨some 1, some 2⟩ 3 2 = some (.maxNodes, 2) := rfl

theorem broken?_eq_none_iff :
    l.broken? position depth = none ↔ ∀ limit value, ¬ l.Offends position depth limit value := by
  constructor
  · intro h limit value ho
    by_cases hn : ∃ m, l.Offends position depth .maxNodes m
    · obtain ⟨m, hm⟩ := hn
      have hs := (l.broken?_eq_some_iff position depth .maxNodes m).mpr ⟨hm, fun h => by cases h⟩
      rw [h] at hs
      cases hs
    · have hs := (l.broken?_eq_some_iff position depth limit value).mpr
        ⟨ho, fun _ m hm => hn ⟨m, hm⟩⟩
      rw [h] at hs
      cases hs
  · intro h
    cases hb : l.broken? position depth with
    | none => rfl
    | some p =>
        obtain ⟨limit, value⟩ := p
        exact absurd ((l.broken?_eq_some_iff position depth limit value).mp hb).1 (h limit value)

theorem firstBroken?_visits (n : Node) :
    l.firstBroken? 0 n.visits =
      n.positions.findSome? fun q => l.broken? q.2 q.1.depth := by
  unfold firstBroken? Node.positions
  rw [n.visits_eq, List.zipIdx_map, List.findSome?_map]
  rfl

theorem admits_iff (n : Node) :
    l.Admits n ↔ ∀ q ∈ n.positions, ∀ limit value, ¬ l.Offends q.2 q.1.depth limit value := by
  constructor
  · rintro ⟨hnodes, hdepth⟩ ⟨o, position⟩ hq limit value ho
    cases limit with
    | maxNodes =>
        obtain ⟨hl, hlt⟩ := ho
        have hle := Nat.le_trans (Node.positions_le_length hq) (hnodes value hl)
        exact absurd hle (Nat.not_le_of_lt hlt)
    | maxDepth =>
        obtain ⟨hl, hlt⟩ := ho
        have hle := hdepth value hl o (List.fst_mem_of_mem_zipIdx hq)
        exact absurd hle (Nat.not_le_of_lt hlt)
  · intro h
    refine ⟨fun m hm => ?_, fun m hm o ho => ?_⟩
    · obtain ⟨o, hq⟩ := n.exists_last_position
      by_contra hlt
      exact h _ hq .maxNodes m ⟨hm, Nat.lt_of_not_le hlt⟩
    · obtain ⟨position, hq⟩ := Node.exists_position ho
      by_contra hlt
      exact h _ hq .maxDepth m ⟨hm, Nat.lt_of_not_le hlt⟩

theorem Admits.mono {l l' : Limits} {n : Node} (h : l.Admits n) (hl : l'.LooserThan l) :
    l'.Admits n := by
  constructor
  · intro m' hm'
    obtain ⟨m, hm, hle⟩ := hl.1 m' hm'
    exact Nat.le_trans (h.1 m hm) hle
  · intro m' hm' o ho
    obtain ⟨m, hm, hle⟩ := hl.2 m' hm'
    exact Nat.le_trans (h.2 m hm o ho) hle

end Limits

namespace Node

variable {n : Node} {l : Limits}

theorem trace_eq_of_admits (h : l.Admits n) : n.trace l = .ok n.recursiveTrace := by
  apply trace_eq_ok_of_firstBroken?_eq_none
  rw [l.firstBroken?_visits, List.findSome?_eq_none_iff]
  intro q hq
  exact (l.broken?_eq_none_iff _ _).mpr ((l.admits_iff n).mp h q hq)

theorem trace_eq_of_not_admits (h : ¬ l.Admits n) :
    ∃ before o position after limit value, n.positions = before ++ (o, position) :: after ∧
      (∀ q ∈ before, ∀ limit' value', ¬ l.Offends q.2 q.1.depth limit' value') ∧
      l.Names position o.depth limit value ∧
      n.trace l = .error (.limitExceeded limit value) := by
  cases hb : l.firstBroken? 0 n.visits with
  | none =>
      rw [l.firstBroken?_visits, List.findSome?_eq_none_iff] at hb
      refine absurd ((l.admits_iff n).mpr fun q hq => ?_) h
      exact (l.broken?_eq_none_iff _ _).mp (hb q hq)
  | some p =>
      obtain ⟨limit, value⟩ := p
      have ht : n.trace l = .error (.limitExceeded limit value) := by
        rw [trace_eq, hb]
        rfl
      rw [l.firstBroken?_visits, List.findSome?_eq_some_iff] at hb
      obtain ⟨before, ⟨o, position⟩, after, hp, hn, hs⟩ := hb
      refine ⟨before, o, position, after, limit, value, hp, fun q hq => ?_, ?_, ht⟩
      · exact (l.broken?_eq_none_iff _ _).mp (hs q hq)
      · exact (l.broken?_eq_some_iff _ _ limit value).mp hn

/-- **Bounds are exact**: a walk succeeds if and only if the bounds admit the tree, and then its
trace is the unbounded one; otherwise the first node of the pre-order that offends a bound decides
which bound is reported.  Looser bounds keep every trace. -/
theorem trace_limits_exact (n : Node) (l : Limits) :
    ((∃ t, n.trace l = .ok t) ↔ l.Admits n) ∧
      (l.Admits n → n.trace l = n.trace .unbounded) ∧
      (¬ l.Admits n →
        ∃ before o position after limit value, n.positions = before ++ (o, position) :: after ∧
          (∀ q ∈ before, ∀ limit' value', ¬ l.Offends q.2 q.1.depth limit' value') ∧
          l.Names position o.depth limit value ∧
          n.trace l = .error (.limitExceeded limit value)) ∧
      ∀ l' : Limits, l'.LooserThan l → ∀ t, n.trace l = .ok t → n.trace l' = .ok t := by
  have hiff : (∃ t, n.trace l = .ok t) ↔ l.Admits n := by
    constructor
    · rintro ⟨t, ht⟩
      by_contra h
      obtain ⟨_, _, _, _, _, _, _, _, _, he⟩ := trace_eq_of_not_admits h
      rw [he] at ht
      cases ht
    · intro h
      exact ⟨n.recursiveTrace, trace_eq_of_admits h⟩
  refine ⟨hiff, fun h => ?_, trace_eq_of_not_admits, fun l' hl t ht => ?_⟩
  · rw [trace_eq_of_admits h, n.trace_unbounded]
  · have h := hiff.mp ⟨t, ht⟩
    rw [eq_recursiveTrace_of_trace_eq_ok ht]
    exact trace_eq_of_admits (h.mono hl)

end Node

end Walkthrough
