import Walkthrough.Tree.Kind

/-! # Syntax trees

A syntax tree is a labelled tree with children in source order.  A label holds what the parser
says about one node: its grammar tag, the row it starts on, the source text it covers, whether it
is named (an anonymous node is a mere token), and the field under which its parent knows it.

* Look-ups may come back empty: `byField?` is the first child under a field, `child?` the child
  at a position; `namedChildren` leaves the tokens out.
* `Node.size` counts the nodes, the measure of every walk over a tree; `Node.rec_namedChildren`
  is the induction that goes down to the named children. -/

namespace Walkthrough

/-- What the parser says about one node. -/
structure Label where
  tag : String
  row : Nat
  text : String
  named : Bool
  field : Option String
deriving DecidableEq, Repr

/-- A syntax tree: a label over the children in source order. -/
inductive Node where
  | mk (label : Label) (children : List Node)
deriving Repr

namespace Node

/-- What the parser says about the topmost node. -/
def label : Node → Label
  | mk l _ => l

/-- All children, tokens included. -/
def children : Node → List Node
  | mk _ cs => cs

/-- The kind of the topmost node. -/
def kind (n : Node) : Kind := Kind.ofTag n.label.tag

/-- The source text that the node covers. -/
def text (n : Node) : String := n.label.text

/-- The line that the node starts on; the first line is 1. -/
def line (n : Node) : Nat := n.label.row + 1

/-- The children that are not mere tokens. -/
def namedChildren (n : Node) : List Node := n.children.filter (·.label.named)

/-- The first child, named or not, under the field. -/
def byField? (n : Node) (field : String) : Option Node :=
  n.children.find? (·.label.field == some field)

/-- The child at the position, tokens included. -/
def child? (n : Node) (i : Nat) : Option Node := n.children[i]?

/-- The text of the first child under the field. -/
def fieldText? (n : Node) (field : String) : Option String := (n.byField? field).map (·.text)

mutual

/-- The number of nodes of a tree. -/
def size : Node → Nat
  | mk _ cs => sizeAll cs + 1

/-- The number of nodes of a row of trees. -/
def sizeAll : List Node → Nat
  | [] => 0
  | n :: ns => n.size + sizeAll ns

end

@[simp] theorem sizeAll_append (ms ns : List Node) :
    sizeAll (ms ++ ns) = sizeAll ms + sizeAll ns := by
  induction ms with
  | nil => simp [sizeAll]
  | cons m ms ih => simp [sizeAll, ih, Nat.add_assoc]

theorem sizeAll_filter_le (p : Node → Bool) (ns : List Node) :
    sizeAll (ns.filter p) ≤ sizeAll ns := by
  induction ns with
  | nil => simp
  | cons n ns ih =>
      by_cases h : p n = true
      · simp [h, sizeAll, ih]
      · simp [h, sizeAll]; omega

theorem size_le_sizeAll {n : Node} {ns : List Node} (h : n ∈ ns) : n.size ≤ sizeAll ns := by
  induction ns with
  | nil => simp at h
  | cons m ns ih =>
      rcases List.mem_cons.mp h with rfl | h
      · simp [sizeAll]
      · have := ih h
        simp [sizeAll]; omega

theorem sizeAll_children (n : Node) : n.size = sizeAll n.children + 1 := by
  cases n with
  | mk l cs => simp [size, children]

theorem sizeAll_namedChildren_lt (n : Node) : sizeAll n.namedChildren < n.size := by
  have := sizeAll_filter_le (·.label.named) n.children
  rw [sizeAll_children n]
  exact Nat.lt_succ_of_le this

theorem size_lt_of_mem_namedChildren {n m : Node} (h : m ∈ n.namedChildren) : m.size < n.size :=
  Nat.lt_of_le_of_lt (size_le_sizeAll h) (sizeAll_namedChildren_lt n)

/-- A recursion over a row that passes the tokens by runs through the named trees. -/
theorem eq_flatMap_named {α : Type} {f : List Node → List α} {g : Node → List α}
    (hnil : f [] = [])
    (hcons : ∀ n ns, f (n :: ns) = if n.label.named then g n ++ f ns else f ns) (ns : List Node) :
    f ns = (ns.filter (·.label.named)).flatMap g := by
  induction ns with
  | nil => exact hnil
  | cons n ns ih =>
      rw [hcons, ih]
      by_cases h : n.label.named = true
      · simp [h]
      · simp [h]

/-- What holds of a tree as soon as it holds of its named children holds of every tree. -/
@[elab_as_elim]
theorem rec_namedChildren {motive : Node → Prop}
    (step : ∀ n : Node, (∀ m ∈ n.namedChildren, motive m) → motive n) (n : Node) : motive n := by
  induction hs : n.size using Nat.strongRecOn generalizing n with
  | ind s ih =>
      subst hs
      exact step n fun m hm => ih m.size (size_lt_of_mem_namedChildren hm) m rfl

theorem size_lt_of_byField? {n m : Node} {field : String} (h : n.byField? field = some m) :
    m.size < n.size := by
  have := size_le_sizeAll (List.mem_of_find?_eq_some h)
  rw [sizeAll_children n]
  exact Nat.lt_succ_of_le this

end Node

end Walkthrough
