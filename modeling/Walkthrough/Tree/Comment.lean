import Mathlib.Data.List.Forall2
import Walkthrough.Walk.Visit

/-! # Comments in a tree

A parser puts a comment among the children of whatever construct it stands in: a named leaf under
no field.  A commented tree is the tree with such leaves put in, anywhere behind a first child.

* `Interspersed` relates two rows of nodes, of which the second has comments in addition; the first
  so many named nodes may be reserved, so that no comment comes before they have passed.
* `Node.Commented` relates two trees in this way, all the way down.
* A look-up by field finds the same in both (`Node.Commented.byField?`); a look-up by position does
  if the position is reserved (`Node.Commented.namedChild?`). -/

namespace Walkthrough

/-- A comment is a named leaf under no field. -/
def Node.IsComment (n : Node) : Prop :=
  n.label.tag = "comment" ∧ n.label.named = true ∧ n.label.field = none ∧ n.children = []

theorem Node.IsComment.kind {n : Node} (h : n.IsComment) : n.kind = .other := by
  unfold Node.kind
  rw [h.1]
  rfl

/-- How many named nodes are still to pass behind a node. -/
def Node.owedAfter (k : Nat) (n : Node) : Nat := if n.label.named then k - 1 else k

theorem Node.owedAfter_le {j k : Nat} (h : j ≤ k) (n : Node) : n.owedAfter j ≤ n.owedAfter k := by
  unfold owedAfter
  split <;> omega

/-- The second row is the first one with comments put in, none of them before `k` named nodes have
passed; the nodes that correspond are related. -/
inductive Interspersed (R : Node → Node → Prop) : Nat → List Node → List Node → Prop
  | nil {k : Nat} : Interspersed R k [] []
  | keep {k : Nat} {n n' : Node} {ns ns' : List Node} (hn : R n n')
      (hs : Interspersed R (n.owedAfter k) ns ns') : Interspersed R k (n :: ns) (n' :: ns')
  | comment {m : Node} {ns ns' : List Node} (hm : m.IsComment) (hs : Interspersed R 0 ns ns') :
      Interspersed R 0 ns (m :: ns')

/-- The second tree is the first one with comments put in.  At every node they come behind the
first child, and behind as many named children as are reserved there. -/
inductive Node.Commented (reserved : Node → Nat) : Node → Node → Prop
  | leaf {l : Label} : Commented reserved (.mk l []) (.mk l [])
  | branch {l : Label} {c c' : Node} {cs cs' : List Node} (hc : Commented reserved c c')
      (hs : Interspersed (Commented reserved) (c.owedAfter (reserved (.mk l (c :: cs)))) cs cs') :
      Commented reserved (.mk l (c :: cs)) (.mk l (c' :: cs'))

/-- Nothing is reserved: a comment may stand anywhere behind a first child. -/
def Node.nothingReserved (_ : Node) : Nat := 0

/-! ### Rows -/

namespace Interspersed

variable {R : Node → Node → Prop} {k : Nat} {ns ns' : List Node}

/-- With less reserved, comments may stand where they stand, and in more places. -/
theorem mono {R' : Node → Node → Prop} (h : Interspersed R k ns ns') {j : Nat} (hj : j ≤ k)
    (hR : ∀ n ∈ ns, ∀ n', R n n' → R' n n') : Interspersed R' j ns ns' := by
  induction h generalizing j with
  | nil => exact .nil
  | @keep k n n' ns ns' hn _ ih =>
      refine .keep (hR n List.mem_cons_self n' hn) (ih ?_ ?_)
      · exact Node.owedAfter_le hj n
      · exact fun m hm => hR m (List.mem_cons_of_mem n hm)
  | comment hm _ ih =>
      obtain rfl : j = 0 := Nat.le_zero.mp hj
      exact .comment hm (ih hj hR)

/-- A filter that comments do not pass leaves rows without comments. -/
theorem filter {p : Node → Bool} (h : Interspersed R k ns ns')
    (hR : ∀ n n', R n n' → p n' = p n) (hc : ∀ m : Node, m.IsComment → p m = false) :
    List.Forall₂ R (ns.filter p) (ns'.filter p) := by
  induction h with
  | nil => exact .nil
  | @keep _ n n' _ _ hn _ ih =>
      rw [List.filter_cons, List.filter_cons, hR n n' hn]
      split
      · exact .cons hn ih
      · exact ih
  | @comment m _ _ hm _ ih =>
      rw [List.filter_cons, hc m hm, if_neg Bool.false_ne_true]
      exact ih

/-- A search that does not find comments finds nodes that correspond. -/
theorem find? {p : Node → Bool} (h : Interspersed R k ns ns')
    (hR : ∀ n n', R n n' → p n' = p n) (hc : ∀ m : Node, m.IsComment → p m = false) :
    Option.Rel R (ns.find? p) (ns'.find? p) := by
  have hf := h.filter hR hc
  rw [← List.head?_filter, ← List.head?_filter]
  generalize ns.filter p = xs at hf ⊢
  generalize ns'.filter p = ys at hf ⊢
  cases hf with
  | nil => exact .none
  | cons hn _ => exact .some hn

/-- Tokens do not count among the reserved nodes. -/
theorem named (h : Interspersed R k ns ns') (hR : ∀ n n', R n n' → n'.label = n.label) :
    Interspersed R k (ns.filter (·.label.named)) (ns'.filter (·.label.named)) := by
  induction h with
  | nil => exact .nil
  | @keep k n n' _ _ hn _ ih =>
      rw [List.filter_cons, List.filter_cons, hR n n' hn]
      by_cases hb : n.label.named = true
      · rw [if_pos hb, if_pos hb]
        exact .keep hn ih
      · rw [if_neg hb, if_neg hb]
        rw [Node.owedAfter, if_neg hb] at ih
        exact ih
  | @comment m _ _ hm _ ih =>
      rw [List.filter_cons, if_pos hm.2.1]
      exact .comment hm ih

/-- The reserved nodes keep their positions. -/
theorem getElem? (h : Interspersed R k ns ns') (hn : ∀ n ∈ ns, n.label.named = true) {i : Nat}
    (hi : i < k) : Option.Rel R ns[i]? ns'[i]? := by
  induction h generalizing i with
  | nil => exact .none
  | @keep k n n' ns ns' hr _ ih =>
      cases i with
      | zero => exact .some hr
      | succ i =>
          rw [List.getElem?_cons_succ, List.getElem?_cons_succ]
          apply ih fun m hm => hn m (List.mem_cons_of_mem n hm)
          rw [Node.owedAfter, if_pos (hn n List.mem_cons_self)]
          omega
  | comment => omega

end Interspersed

/-- Related options are both empty, or they hold related values. -/
theorem cases_of_rel {α β : Type} {R : α → β → Prop} {a : Option α} {b : Option β}
    (h : Option.Rel R a b) : a = none ∧ b = none ∨ ∃ x y, a = some x ∧ b = some y ∧ R x y := by
  cases h with
  | none => exact .inl ⟨rfl, rfl⟩
  | some h => exact .inr ⟨_, _, rfl, rfl, h⟩

/-- Related options give the same if related values do. -/
theorem map_eq_of_rel {α β γ : Type} {R : α → β → Prop} {a : Option α} {b : Option β}
    {f : α → γ} {g : β → γ} (h : Option.Rel R a b) (hR : ∀ x y, R x y → g y = f x) :
    b.map g = a.map f := by
  cases h with
  | none => rfl
  | some h => exact congrArg some (hR _ _ h)

/-- So do related lists. -/
theorem map_eq_of_forall₂ {α β γ : Type} {R : α → β → Prop} {as : List α} {bs : List β}
    {f : α → γ} {g : β → γ} (h : List.Forall₂ R as bs) (hR : ∀ x y, R x y → g y = f x) :
    bs.map g = as.map f := by
  induction h with
  | nil => rfl
  | cons h _ ih => rw [List.map_cons, List.map_cons, hR _ _ h, ih]

/-! ### Trees -/

namespace Node.Commented

variable {reserved : Node → Nat} {n n' : Node}

theorem mono {reserved' : Node → Nat} (hr : ∀ m, reserved' m ≤ reserved m)
    (h : n.Commented reserved n') : n.Commented reserved' n' := by
  induction hs : n.size using Nat.strongRecOn generalizing n n' with
  | ind s ih =>
      subst hs
      cases h with
      | leaf => exact .leaf
      | @branch l c c' cs cs' hc hcs =>
          have hlt : ∀ m ∈ c :: cs, m.size < (Node.mk l (c :: cs)).size :=
            fun m hm => Nat.lt_succ_of_le (Node.size_le_sizeAll hm)
          refine .branch (ih _ (hlt c List.mem_cons_self) hc rfl) ?_
          apply hcs.mono (Node.owedAfter_le (hr _) c)
          intro m hm m' hmm
          exact ih _ (hlt m (List.mem_cons_of_mem c hm)) hmm rfl

theorem label (h : n.Commented reserved n') : n'.label = n.label := by
  cases h <;> rfl

theorem text (h : n.Commented reserved n') : n'.text = n.text := by
  unfold Node.text
  rw [h.label]

theorem kind (h : n.Commented reserved n') : n'.kind = n.kind := by
  unfold Node.kind
  rw [h.label]

theorem line (h : n.Commented reserved n') : n'.line = n.line := by
  unfold Node.line
  rw [h.label]

theorem children (h : n.Commented reserved n') :
    Interspersed (Node.Commented reserved) (reserved n) n.children n'.children := by
  cases h with
  | leaf => exact .nil
  | branch hc hs => exact .keep hc hs

/-- Nothing comes before a first child. -/
theorem firstChild (h : n.Commented reserved n') :
    Option.Rel (Node.Commented reserved) (n.child? 0) (n'.child? 0) := by
  cases h with
  | leaf => exact .none
  | branch hc _ => exact .some hc

theorem byField? (h : n.Commented reserved n') (field : String) :
    Option.Rel (Node.Commented reserved) (n.byField? field) (n'.byField? field) := by
  apply h.children.find?
  · intro m m' hm
    rw [hm.label]
  · intro m hm
    rw [hm.2.2.1]
    rfl

theorem fieldText? (h : n.Commented reserved n') (field : String) :
    n'.fieldText? field = n.fieldText? field :=
  map_eq_of_rel (h.byField? field) fun _ _ hm => hm.text

theorem namedChildren (h : n.Commented reserved n') :
    Interspersed (Node.Commented reserved) (reserved n) n.namedChildren n'.namedChildren :=
  h.children.named fun _ _ hm => hm.label

/-- A named child at a reserved position is found in both trees. -/
theorem namedChild? (h : n.Commented reserved n') {i : Nat} (hi : i < reserved n) :
    Option.Rel (Node.Commented reserved) n.namedChildren[i]? n'.namedChildren[i]? :=
  h.namedChildren.getElem? (fun _ hm => (List.mem_filter.mp hm).2) hi

theorem callee (h : n.Commented reserved n') : Visit.callee n' = Visit.callee n := by
  unfold Visit.callee
  rw [map_eq_of_rel h.firstChild fun _ _ hm => hm.text]

/-- Comments are no field declarations. -/
theorem structFields (h : n.Commented reserved n') :
    Walkthrough.structFields n' = Walkthrough.structFields n := by
  unfold Walkthrough.structFields
  rcases cases_of_rel (h.byField? "body") with ⟨hb, hb'⟩ | ⟨body, body', hb, hb', hbody⟩
  · rw [hb, hb']
  · rw [hb, hb']
    have hf := hbody.namedChildren.filter (p := (·.kind == .fieldDeclaration))
      (fun _ _ hm => by rw [hm.kind]) (fun _ hm => by rw [hm.kind]; rfl)
    apply map_eq_of_forall₂ hf
    intro m m' hm
    simp only [hm.fieldText?]

end Node.Commented

end Walkthrough
