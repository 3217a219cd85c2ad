import Walkthrough.Proofs.Trace.Constructs

/-! # Subtrees in their place

A subtree is walked in its place as it is walked on its own, but for what its surroundings tell: the
kind of its parent and the innermost function around it.

* `Occurrence.within` puts an occurrence of a subtree into the tree around it;
  `Occurrence.preorder_eq_append_cons`: each subtree is one block of the pre-order.
* `Visit.of_records_congr`: seven of the nine sequences do not depend on the surroundings.
* `Occurrence.Transplants` says what the other two may owe to them: the shape of one variable, and
  the frames of calls outside every function of the subtree.
* `Node.trace_embeds_subtrees`: the trace of a tree holds that of each subtree as one block. -/

namespace Walkthrough

/-- The sequences whose records a node tells by itself. -/
def Sequence.local : List Sequence :=
  [flow, steps, updates, returns, dataStructures, memberWrites, allocations]

/-! ### What a node adds in other surroundings -/

namespace Visit

variable {v w : Visit}

theorem of_declaration_congr (h : v.node = w.node) {s : Sequence} (hs : s ∈ Sequence.local) :
    s.of v.declaration = s.of w.declaration := by
  unfold declaration
  rw [h]
  cases w.node.fieldText? "declarator" with
  | none => rfl
  | some name =>
      simp only [Sequence.local, List.mem_cons, List.not_mem_nil, or_false] at hs
      rcases hs with rfl | rfl | rfl | rfl | rfl | rfl | rfl <;> rfl

theorem of_call_congr (h : v.node = w.node) {s : Sequence} (hs : s ∈ Sequence.local) :
    s.of v.call = s.of w.call := by
  unfold call
  rw [h]
  simp only [Sequence.local, List.mem_cons, List.not_mem_nil, or_false] at hs
  rcases hs with rfl | rfl | rfl | rfl | rfl | rfl | rfl <;> rfl

theorem records_congr (h : v.node = w.node) (hd : v.node.kind ≠ .initDeclarator)
    (hc : v.node.kind ≠ .callExpression) : v.records = w.records := by
  obtain ⟨n, parent, enclosing, depth⟩ := v
  obtain ⟨m, parent', enclosing', depth'⟩ := w
  obtain rfl : n = m := h
  cases hk : n.kind with
  | initDeclarator => exact absurd hk hd
  | callExpression => exact absurd hk hc
  | _ => simp only [records, hk] <;> rfl

theorem records_of_initDeclarator (h : v.node.kind = .initDeclarator) :
    v.records = v.declaration := by
  rw [records, h]

theorem records_of_callExpression (h : v.node.kind = .callExpression) : v.records = v.call := by
  rw [records, h]

theorem of_records_congr (h : v.node = w.node) {s : Sequence} (hs : s ∈ Sequence.local) :
    s.of v.records = s.of w.records := by
  by_cases hd : v.node.kind = .initDeclarator
  · rw [records_of_initDeclarator hd, records_of_initDeclarator (h ▸ hd)]
    exact of_declaration_congr h hs
  · by_cases hc : v.node.kind = .callExpression
    · rw [records_of_callExpression hc, records_of_callExpression (h ▸ hc)]
      exact of_call_congr h hs
    · rw [records_congr h hd hc]

theorem declarations_eq_nil (h : v.node.kind ≠ .initDeclarator) : v.records.declarations = [] := by
  cases v.records_tell .declaration with
  | one hq _ _ => exact absurd hq.1 h
  | none _ hr => exact hr

/-- Other surroundings change the shape of the variable that a node declares, and nothing else
about it. -/
theorem declarations_congr (h : v.node = w.node) :
    v.records.declarations = w.records.declarations ∨
      ∃ own shape, w.records.declarations = [own] ∧
        v.records.declarations = [{ own with shape := shape }] := by
  by_cases hd : v.node.kind = .initDeclarator
  · rw [records_of_initDeclarator hd, records_of_initDeclarator (h ▸ hd)]
    unfold declaration
    rw [h]
    cases w.node.fieldText? "declarator" with
    | none => exact .inl rfl
    | some name => exact .inr ⟨_, _, rfl, rfl⟩
  · rw [declarations_eq_nil hd, declarations_eq_nil (h ▸ hd)]
    exact .inl rfl

theorem declarations_congr_of_parent (h : v.node = w.node)
    (hp : v.node.kind = .initDeclarator →
      (v.parent = .pointerDeclarator ↔ w.parent = .pointerDeclarator)) :
    v.records.declarations = w.records.declarations := by
  by_cases hd : v.node.kind = .initDeclarator
  · have hb : (v.parent == .pointerDeclarator) = (w.parent == .pointerDeclarator) := by
      rw [Bool.eq_iff_iff, beq_iff_eq, beq_iff_eq]
      exact hp hd
    rw [records_of_initDeclarator hd, records_of_initDeclarator (h ▸ hd)]
    unfold declaration declaredShape Clue.declaresPointer
    rw [h, hb]
  · rw [declarations_eq_nil hd, declarations_eq_nil (h ▸ hd)]

end Visit

/-! ### The pre-order in blocks -/

namespace Occurrence

/-- An occurrence of a subtree as an occurrence of the tree around it. -/
def within (p o : Occurrence) : Occurrence := ⟨p.node, p.above ++ o.above⟩

theorem next_within (p o : Occurrence) : (p.within o).next = p.next.map (·.within o) := by
  unfold next
  rw [List.map_map]
  rfl

theorem preorder_within (p o : Occurrence) :
    (p.within o).preorder = p.preorder.map (·.within o) := by
  obtain ⟨n, above⟩ := p
  induction n using Node.rec_namedChildren generalizing above with
  | step n ih =>
      rw [preorder_eq, preorder_eq, next_within, List.map_cons, List.map_flatMap, List.flatMap_map]
      congr 1
      apply List.flatMap_congr
      intro q hq
      obtain ⟨m, hm, rfl⟩ := List.mem_map.mp hq
      exact ih m hm _

/-- What stands below an occurrence is the pre-order of its node, put in its place. -/
theorem preorder_eq_map_within (o : Occurrence) :
    o.preorder = o.node.occurrences.map (·.within o) :=
  preorder_within o.node.rootOccurrence o

theorem flatMap_eq_append_cons {α β : Type} {f : α → List β} {as : List α} {b : β}
    {before rest : List β} (h : as.flatMap f = before ++ b :: rest) :
    ∃ a ∈ as, ∃ inner outer after, f a = inner ++ b :: outer ∧ rest = outer ++ after := by
  induction as generalizing before with
  | nil => simp at h
  | cons a as ih =>
      rw [List.flatMap_cons, List.append_eq_append_iff] at h
      rcases h with ⟨inner, rfl, h⟩ | ⟨tail, hf, h⟩
      · obtain ⟨c, hc, hrest⟩ := ih h
        exact ⟨c, List.mem_cons_of_mem a hc, hrest⟩
      · cases tail with
        | nil =>
            obtain ⟨c, hc, hrest⟩ := @ih [] h.symm
            exact ⟨c, List.mem_cons_of_mem a hc, hrest⟩
        | cons c tail =>
            obtain ⟨rfl, rfl⟩ := List.cons.inj h
            exact ⟨a, List.mem_cons_self, before, tail, _, hf, rfl⟩

/-- **A subtree is one block of the pre-order**: from wherever its root is listed, the list goes on
with what is below it. -/
theorem preorder_eq_append_cons {o p : Occurrence} {before rest : List Occurrence}
    (h : o.preorder = before ++ p :: rest) : ∃ after, p :: rest = p.preorder ++ after := by
  obtain ⟨n, above⟩ := o
  induction n using Node.rec_namedChildren generalizing above before rest with
  | step n ih =>
      rw [preorder_eq] at h
      cases before with
      | nil =>
          obtain ⟨rfl, rfl⟩ := List.cons.inj h
          exact ⟨[], by rw [← preorder_eq, List.append_nil]⟩
      | cons q before =>
          obtain ⟨c, hc, inner, outer, after, hf, rfl⟩ :=
            flatMap_eq_append_cons (List.cons.inj h).2
          obtain ⟨m, hm, rfl⟩ := List.mem_map.mp hc
          obtain ⟨tail, ht⟩ := ih m hm _ hf
          exact ⟨tail ++ after, by rw [← List.cons_append, ht, List.append_assoc]⟩

theorem above_suffix_of_mem_preorder {o p : Occurrence} (h : p ∈ o.preorder) :
    o.above <:+ p.above := by
  have hr := mem_preorder_iff.mp h
  clear h
  induction hr with
  | refl => exact List.suffix_rfl
  | child _ _ ih => exact ih.trans (List.suffix_cons _ _)

theorem exists_occurrences_eq_cons (n : Node) :
    ∃ others, n.occurrences = n.rootOccurrence :: others ∧ ∀ p ∈ others, p.above ≠ [] := by
  refine ⟨_, preorder_eq n.rootOccurrence, ?_⟩
  intro p hp ha
  obtain ⟨c, hc, hp⟩ := List.mem_flatMap.mp hp
  obtain ⟨m, _, rfl⟩ := List.mem_map.mp hc
  have hs := above_suffix_of_mem_preorder hp
  rw [ha, List.suffix_nil] at hs
  cases hs

/-! ### Surroundings -/

theorem parent_within {p : Occurrence} (o : Occurrence) (h : p.above ≠ []) :
    (p.within o).visit.parent = p.visit.parent := by
  obtain ⟨parent, above, ha⟩ := List.exists_cons_of_ne_nil h
  simp only [visit, within, ha, List.cons_append, List.head?_cons]

theorem parent_eq_pointerDeclarator_iff (o : Occurrence) :
    o.visit.parent = .pointerDeclarator ↔
      ∃ parent above, o.above = parent :: above ∧ parent.kind = .pointerDeclarator := by
  unfold visit
  cases o.above with
  | nil => simp
  | cons parent above => simp

theorem function?_within (p o : Occurrence) :
    (p.within o).function? = p.function?.or o.function? :=
  List.find?_append

theorem isSelfCall_within_of_function {p : Occurrence} (o : Occurrence)
    (h : ∃ f ∈ p.above, f.kind = .functionDefinition) :
    (p.within o).IsSelfCall ↔ p.IsSelfCall := by
  obtain ⟨f, hf, hk⟩ := h
  have hs : p.function?.isSome = true := List.find?_isSome.mpr ⟨f, hf, beq_iff_eq.mpr hk⟩
  obtain ⟨g, hg⟩ := Option.isSome_iff_exists.mp hs
  have he : (p.within o).visit.enclosing = p.visit.enclosing := by
    show (p.within o).function?.bind _ = p.function?.bind _
    rw [function?_within, hg, Option.some_or]
  rw [isSelfCall_iff, isSelfCall_iff, he]
  rfl

theorem IsSelfCall.within {p : Occurrence} (h : p.IsSelfCall) (o : Occurrence) :
    (p.within o).IsSelfCall := by
  have hf : ∃ f ∈ p.above, f.kind = .functionDefinition := by
    obtain ⟨_, inner, f, outer, _, ha, _, hf, _⟩ := h
    exact ⟨f, by rw [ha]; simp, hf⟩
  exact (isSelfCall_within_of_function o hf).mpr h

end Occurrence

/-! ### Traces of subtrees -/

/-- The variables of a subtree in its place and on its own are the same, but for the shape of the
one that the root of the subtree declares below a pointer declarator. -/
def Occurrence.VariablesAgree (o : Occurrence) (inside alone : List Variable) : Prop :=
  inside = alone ∨
    o.node.kind = .initDeclarator ∧
      (∃ parent above, o.above = parent :: above ∧ parent.kind = .pointerDeclarator) ∧
      ∃ own shape others, (Visit.root o.node).records.declarations = [own] ∧
        alone = own :: others ∧ inside = { own with shape := shape } :: others

/-- What a trace holds for a subtree in its place, next to the trace of the subtree on its own. -/
structure Occurrence.Transplants (o : Occurrence) (inside alone : Trace) : Prop where
  /-- seven sequences are the same -/
  sequences : ∀ s ∈ Sequence.local, s.of inside = s.of alone
  /-- so are the variables, but for one shape -/
  declarations : o.VariablesAgree inside.declarations alone.declarations
  /-- every frame of the subtree on its own is there -/
  callStack : alone.callStack.Sublist inside.callStack
  /-- the frames that come on top are those of calls outside every function of the subtree -/
  extraFrames : ∃ kept : List Occurrence, kept.Sublist o.node.occurrences ∧
    inside.callStack = kept.map frame ∧
    alone.callStack = (kept.filter fun p => p.IsSelfCall).map frame ∧
    ∀ p ∈ kept, ¬ p.IsSelfCall →
      p.node.kind = .callExpression ∧ ∀ f ∈ p.above, f.kind ≠ .functionDefinition

/-- What is recorded for a subtree in its place. -/
def Occurrence.contribution (o : Occurrence) : Trace :=
  .concat (o.preorder.map fun p => p.visit.records)

/-- The trace of a tree holds, between the records of the occurrences before a subtree and those of
the occurrences behind it, what is recorded for the subtree, and this is what the trace of the
subtree on its own becomes in its place. -/
def Node.EmbedsAt (n : Node) (before : List Occurrence) (o : Occurrence) : Prop :=
  ∃ alone after,
    n.occurrences = before ++ (o.preorder ++ after) ∧
      n.trace .unbounded = .ok (.concat (before.map fun p => p.visit.records) ++ o.contribution ++
        .concat (after.map fun p => p.visit.records)) ∧
      o.node.trace .unbounded = .ok alone ∧ o.Transplants o.contribution alone

namespace Occurrence

variable (o : Occurrence)

theorem of_contribution (s : Sequence) :
    s.of o.contribution = o.node.occurrences.flatMap fun p => s.of (p.within o).visit.records := by
  rw [contribution, preorder_eq_map_within, s.of_concat, List.flatMap_map, List.flatMap_map]

theorem of_contribution_local {s : Sequence} (hs : s ∈ Sequence.local) :
    s.of o.contribution = s.of o.node.recursiveTrace := by
  rw [of_contribution, Node.of_recursiveTrace]
  apply List.flatMap_congr
  intro p _
  exact Visit.of_records_congr (v := (p.within o).visit) (w := p.visit) rfl hs

theorem declarations_contribution :
    o.VariablesAgree o.contribution.declarations o.node.recursiveTrace.declarations := by
  obtain ⟨others, hos, habove⟩ := exists_occurrences_eq_cons o.node
  -- Only the root of the subtree can see another parent than on its own.
  have htail : (others.flatMap fun p => (p.within o).visit.records.declarations) =
      others.flatMap fun p => p.visit.records.declarations := by
    apply List.flatMap_congr
    intro p hp
    have hparent := parent_within o (habove p hp)
    exact Visit.declarations_congr_of_parent (v := (p.within o).visit) (w := p.visit) rfl
      fun _ => by rw [hparent]
  have hinside : o.contribution.declarations = o.visit.records.declarations ++
      others.flatMap fun p => p.visit.records.declarations := by
    have h := of_contribution o .declarations
    rw [hos, List.flatMap_cons] at h
    exact h.trans (congrArg (o.visit.records.declarations ++ ·) htail)
  have halone : o.node.recursiveTrace.declarations =
      (Visit.root o.node).records.declarations ++
        others.flatMap fun p => p.visit.records.declarations := by
    have h := o.node.of_recursiveTrace .declarations
    rw [hos, List.flatMap_cons] at h
    exact h
  rw [hinside, halone]
  by_cases hp : o.node.kind = .initDeclarator ∧ o.visit.parent = .pointerDeclarator
  · rcases Visit.declarations_congr (v := o.visit) (w := Visit.root o.node) rfl with
      he | ⟨own, shape, hw, hv⟩
    · exact .inl (by rw [he])
    · refine .inr ⟨hp.1, (parent_eq_pointerDeclarator_iff o).mp hp.2, own, shape,
        others.flatMap fun p => p.visit.records.declarations, hw, ?_, ?_⟩
      · rw [hw]; rfl
      · rw [hv]; rfl
  · have he : o.visit.records.declarations = (Visit.root o.node).records.declarations := by
      apply Visit.declarations_congr_of_parent (v := o.visit) (w := Visit.root o.node) rfl
      intro hk
      exact ⟨fun h => absurd ⟨hk, h⟩ hp, fun h => by cases h⟩
    exact .inl (by rw [he])

theorem callStack_contribution :
    o.contribution.callStack =
      (o.node.occurrences.filter fun p => (p.within o).IsSelfCall).map frame := by
  have hs := of_contribution o .callStack
  change o.contribution.callStack =
    o.node.occurrences.flatMap fun p => (p.within o).visit.records.callStack at hs
  rw [hs, ← flatMap_ite_singleton]
  apply List.flatMap_congr
  intro p _
  exact (p.within o).records_visit_callStack

theorem transplants : o.Transplants o.contribution o.node.recursiveTrace := by
  have hkept : (o.node.occurrences.filter fun p => p.IsSelfCall) =
      (o.node.occurrences.filter fun p => (p.within o).IsSelfCall).filter
        fun p => p.IsSelfCall := by
    rw [List.filter_filter]
    apply List.filter_congr
    intro p _
    by_cases h : p.IsSelfCall
    · simp [h, h.within o]
    · simp [h]
  have halone : o.node.recursiveTrace.callStack =
      ((o.node.occurrences.filter fun p => (p.within o).IsSelfCall).filter
        fun p => p.IsSelfCall).map frame := by
    rw [Node.callStack_recursiveTrace, hkept]
  constructor
  · intro s hs
    exact of_contribution_local o hs
  · exact o.declarations_contribution
  · rw [o.callStack_contribution, halone]
    exact List.filter_sublist.map frame
  · refine ⟨_, List.filter_sublist, o.callStack_contribution, halone, ?_⟩
    intro p hp hn
    have hc : (p.within o).IsSelfCall := of_decide_eq_true (List.mem_filter.mp hp).2
    refine ⟨hc.1, fun f hf hk => hn ?_⟩
    exact (isSelfCall_within_of_function o ⟨f, hf, hk⟩).mp hc

end Occurrence

/-- **Traces compose over subtrees**: at each position of the pre-order, the trace of a tree holds
the trace of the subtree there as one block, between the records of the nodes before and behind it.
The surroundings of the subtree decide nothing but the shape of one variable and the frames of the
calls outside its own functions. -/
theorem Node.trace_embeds_subtrees (n : Node) (i : Fin n.occurrences.length) :
    n.EmbedsAt (n.occurrences.take i) n.occurrences[i] := by
  have hsplit : n.occurrences =
      n.occurrences.take i ++ n.occurrences[i] :: n.occurrences.drop (i + 1) := by
    rw [Fin.getElem_fin, ← List.drop_eq_getElem_cons i.isLt, List.take_append_drop]
  obtain ⟨after, hafter⟩ := Occurrence.preorder_eq_append_cons hsplit
  rw [hafter] at hsplit
  refine ⟨n.occurrences[i].node.recursiveTrace, after, hsplit, ?_, Node.trace_unbounded _,
    n.occurrences[i].transplants⟩
  rw [n.trace_unbounded]
  apply congrArg Except.ok
  calc n.recursiveTrace
      = .concat (n.occurrences.map fun p => p.visit.records) := n.recursiveTrace_eq_occurrences
    _ = .concat ((n.occurrences.take i ++ (n.occurrences[i].preorder ++ after)).map
          fun p => p.visit.records) := by rw [← hsplit]
    _ = _ := by
        rw [List.map_append, List.map_append, Trace.concat_append, Trace.concat_append,
          Trace.append_assoc]
        rfl

end Walkthrough
