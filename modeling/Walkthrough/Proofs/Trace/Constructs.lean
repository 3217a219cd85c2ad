import Mathlib.Data.List.Forall2
import Mathlib.Data.List.Infix
import Walkthrough.Proofs.Walk.Context
import Walkthrough.Trace.Sequence

/-! # Every construct is recorded once

A node adds at most one record to each sequence, and which nodes add one can be told from the node
alone.  So every sequence is, record for record, the list of the nodes that qualify for it, in
pre-order and wherever they are nested.

* `Construct` are the constructs that have a sequence of their own; `Construct.Qualifies` says which
  nodes are one.
* `Visit.records_tell` is what one visit adds: one record to the sequence of each construct that
  its node is, and nothing to the others.
* `Visit.records_line`: every record carries the line of the node that it comes from.
* `Node.constructs_recorded_once`: the sequences of a trace match the qualifying nodes one to one;
  a trace is empty if and only if no node qualifies, and its lines go up if the rows do. -/

namespace Walkthrough

namespace Node

/-- The node has a child under the field. -/
def HasField (n : Node) (field : String) : Prop := ∃ m ∈ n.children, m.label.field = some field

theorem hasField_iff {n : Node} {field : String} :
    n.HasField field ↔ (n.byField? field).isSome = true := by
  unfold HasField byField?
  rw [List.find?_isSome]
  simp only [beq_iff_eq]

theorem hasField_iff_fieldText? {n : Node} {field : String} :
    n.HasField field ↔ (n.fieldText? field).isSome = true := by
  rw [hasField_iff, fieldText?, Option.isSome_map]

instance (n : Node) (field : String) : Decidable (n.HasField field) :=
  decidable_of_iff' _ hasField_iff

/-- An assignment with both sides. -/
def Assigns (n : Node) : Prop :=
  n.kind = .assignmentExpression ∧ n.HasField "left" ∧ n.HasField "right"

instance : DecidablePred Assigns := fun _ => inferInstanceAs (Decidable (_ ∧ _))

/-- The left-hand side is a field expression, or its text holds an arrow. -/
def ThroughMember (n : Node) : Prop :=
  ∃ left ∈ n.byField? "left", left.kind = .fieldExpression ∨ ['-', '>'] <:+: left.text.toList

instance : DecidablePred ThroughMember := fun _ => inferInstanceAs (Decidable (∃ _ ∈ _, _))

end Node

/-- The test for a block inside a text finds the blocks of the library. -/
theorem Text.occursIn_iff {needle cs : List Char} : occursIn needle cs = true ↔ needle <:+: cs := by
  induction cs with
  | nil => simp [occursIn]
  | cons c cs ih =>
      rw [occursIn, Bool.or_eq_true, List.isPrefixOf_iff_prefix, ih, List.infix_cons_iff]

/-- The constructs that have a sequence of their own. -/
inductive Construct where
  | declaration
  | update
  | memberWrite
  | flow
  | return
  | dataStructure
  | allocation
deriving DecidableEq, Repr

namespace Construct

/-- The sequence that tells a construct. -/
def sequence : Construct → Sequence
  | declaration => .declarations
  | update => .updates
  | memberWrite => .memberWrites
  | flow => .flow
  | .return => .returns
  | dataStructure => .dataStructures
  | allocation => .allocations

/-- The nodes that are such a construct. -/
def Qualifies : Construct → Node → Prop
  | declaration, n => n.kind = .initDeclarator ∧ n.HasField "declarator"
  | update, n => n.Assigns ∧ ¬ n.ThroughMember
  | memberWrite, n => n.Assigns ∧ n.ThroughMember
  | flow, n => n.kind = .forStatement ∨ n.kind = .ifStatement ∨ n.kind = .callExpression ∨
      n.kind = .functionDefinition ∧ n.HasField "declarator"
  | .return, n => n.kind = .returnStatement
  | dataStructure, n => n.kind = .structSpecifier ∨ n.kind = .classSpecifier
  | allocation, n => n.kind = .newExpression

instance : (c : Construct) → DecidablePred c.Qualifies
  | declaration => fun _ => inferInstanceAs (Decidable (_ ∧ _))
  | update => fun _ => inferInstanceAs (Decidable (_ ∧ _))
  | memberWrite => fun _ => inferInstanceAs (Decidable (_ ∧ _))
  | flow => fun _ => inferInstanceAs (Decidable (_ ∨ _))
  | .return => fun _ => inferInstanceAs (Decidable (_ = _))
  | dataStructure => fun _ => inferInstanceAs (Decidable (_ ∨ _))
  | allocation => fun _ => inferInstanceAs (Decidable (_ = _))

/-- A record comes from an occurrence: it is all that the node adds to the sequence, and it carries
the line on which the node starts. -/
def ComesFrom (c : Construct) (o : Occurrence) (r : c.sequence.Record) : Prop :=
  c.sequence.of o.visit.records = [r] ∧ c.sequence.line r = o.node.label.row + 1

end Construct

/-- The occurrences of the nodes that are a construct, in pre-order. -/
def Node.constructs (n : Node) (c : Construct) : List Occurrence :=
  n.occurrences.filter fun o => c.Qualifies o.node

/-! ### What one visit adds -/

/-- A sequence gets one record, with the given line, or it gets none, as a condition says. -/
inductive Sequence.Gets (s : Sequence) (t : Trace) (line : Nat) (p : Prop) : Prop
  | one {r : s.Record} (hp : p) (hr : s.of t = [r]) (hl : s.line r = line)
  | none (hp : ¬ p) (hr : s.of t = [])

namespace Visit

variable {v : Visit}

/-- A trace tells the node of a visit: each construct that the node is gets one record with the
line of the node in its sequence, and the other constructs get none. -/
def Tells (v : Visit) (t : Trace) : Prop :=
  ∀ c : Construct, c.sequence.Gets t v.node.line (c.Qualifies v.node)

open Construct

theorem empty_tells (h : ∀ c : Construct, ¬ c.Qualifies v.node) : v.Tells .empty :=
  fun c => .none (h c) c.sequence.of_empty

theorem declaration_tells (h : v.node.kind = .initDeclarator) : v.Tells v.declaration := by
  have hn := @Node.hasField_iff_fieldText? v.node "declarator"
  unfold declaration
  cases hd : v.node.fieldText? "declarator" with
  | none =>
      rw [hd] at hn
      exact empty_tells fun c => by cases c <;> simp [Qualifies, Node.Assigns, h, hn]
  | some name =>
      rw [hd] at hn
      intro c
      cases c with
      | declaration => exact .one ⟨h, hn.mpr rfl⟩ rfl rfl
      | _ => exact .none (by simp [Qualifies, Node.Assigns, h]) rfl

theorem throughMember_iff {left : Node} (h : v.node.byField? "left" = some left) :
    v.node.ThroughMember ↔ Clue.targetsMember left.kind left.text = true := by
  unfold Node.ThroughMember Clue.targetsMember Text.holds
  rw [h, Bool.or_eq_true, beq_iff_eq, Text.occursIn_iff]
  simp

/-- An assignment lacks a side, or its left-hand side decides between an update and a write
through a member. -/
theorem assignment_tells (h : v.node.kind = .assignmentExpression) : v.Tells v.assignment := by
  have hln := @Node.hasField_iff v.node "left"
  have hrn := @Node.hasField_iff v.node "right"
  unfold assignment
  split
  · rename_i left right hl hr
    rw [hl] at hln
    rw [hr] at hrn
    have ha : v.node.Assigns := ⟨h, hln.mpr rfl, hrn.mpr rfl⟩
    have ht := throughMember_iff hl
    intro c
    simp only
    split
    · rename_i hm
      cases c with
      | update => exact .none (fun hq => hq.2 (ht.mpr hm)) rfl
      | memberWrite => exact .one ⟨ha, ht.mpr hm⟩ rfl rfl
      | _ => exact .none (by simp [Qualifies, h]) rfl
    · rename_i hm
      cases c with
      | update => exact .one ⟨ha, fun hq => hm (ht.mp hq)⟩ rfl rfl
      | memberWrite => exact .none (fun hq => hm (ht.mp hq.2)) rfl
      | _ => exact .none (by simp [Qualifies, h]) rfl
  · rename_i hs
    have hn : ¬ v.node.Assigns := by
      rintro ⟨_, hl, hr⟩
      obtain ⟨left, hl⟩ := Option.isSome_iff_exists.mp (hln.mp hl)
      obtain ⟨right, hr⟩ := Option.isSome_iff_exists.mp (hrn.mp hr)
      exact hs left right hl hr
    exact empty_tells fun c => by cases c <;> simp [Qualifies, h, hn]

theorem definition_tells (h : v.node.kind = .functionDefinition) : v.Tells v.definition := by
  have hn := @Node.hasField_iff v.node "declarator"
  unfold definition
  cases hd : v.node.byField? "declarator" with
  | none =>
      rw [hd] at hn
      exact empty_tells fun c => by cases c <;> simp [Qualifies, Node.Assigns, h, hn]
  | some declarator =>
      rw [hd] at hn
      intro c
      cases c with
      | flow => exact .one (.inr (.inr (.inr ⟨h, hn.mpr rfl⟩))) rfl rfl
      | _ => exact .none (by simp [Qualifies, Node.Assigns, h]) rfl

theorem forLoop_tells (h : v.node.kind = .forStatement) : v.Tells v.forLoop := by
  intro c
  cases c with
  | flow => exact .one (.inl h) rfl rfl
  | _ => exact .none (by simp [Qualifies, Node.Assigns, h]) rfl

theorem branch_tells (h : v.node.kind = .ifStatement) : v.Tells v.branch := by
  intro c
  cases c with
  | flow => exact .one (.inr (.inl h)) rfl rfl
  | _ => exact .none (by simp [Qualifies, Node.Assigns, h]) rfl

theorem call_tells (h : v.node.kind = .callExpression) : v.Tells v.call := by
  intro c
  cases c with
  | flow => exact .one (.inr (.inr (.inl h))) rfl rfl
  | _ => exact .none (by simp [Qualifies, Node.Assigns, h]) rfl

theorem returnValue_tells (h : v.node.kind = .returnStatement) : v.Tells v.returnValue := by
  intro c
  cases c with
  | «return» => exact .one h rfl rfl
  | _ => exact .none (by simp [Qualifies, Node.Assigns, h]) rfl

theorem dataStructure_tells (keyword : StructureKeyword)
    (h : v.node.kind = .structSpecifier ∨ v.node.kind = .classSpecifier) :
    v.Tells (v.dataStructure keyword) := by
  intro c
  cases c with
  | dataStructure => exact .one h rfl rfl
  | _ => exact .none (by rcases h with h | h <;> simp [Qualifies, Node.Assigns, h]) rfl

theorem allocation_tells (h : v.node.kind = .newExpression) : v.Tells v.allocation := by
  intro c
  cases c with
  | allocation => exact .one h rfl rfl
  | _ => exact .none (by simp [Qualifies, Node.Assigns, h]) rfl

/-- What a node adds tells it, whatever its kind and whatever fields it lacks. -/
theorem records_tell (v : Visit) : v.Tells v.records := by
  unfold records
  split
  case h_1 h => exact declaration_tells h
  case h_2 h => exact assignment_tells h
  case h_3 h => exact definition_tells h
  case h_4 h => exact forLoop_tells h
  case h_5 h => exact branch_tells h
  case h_6 h => exact call_tells h
  case h_7 h => exact returnValue_tells h
  case h_8 h => exact dataStructure_tells _ (.inl h)
  case h_9 h => exact dataStructure_tells _ (.inr h)
  case h_10 h => exact allocation_tells h
  case h_11 =>
    exact empty_tells fun c => by cases c <;> simp_all [Qualifies, Node.Assigns]

/-- A node that is no construct adds nothing at all, not even a step. -/
theorem records_eq_empty (h : ∀ c : Construct, ¬ c.Qualifies v.node) : v.records = .empty := by
  unfold records
  split
  case h_1 hk =>
    have hn : ¬ v.node.HasField "declarator" := fun hf => h .declaration ⟨hk, hf⟩
    rw [Node.hasField_iff_fieldText?, Option.not_isSome_iff_eq_none] at hn
    rw [declaration, hn]
    rfl
  case h_2 hk =>
    unfold assignment
    split
    · rename_i left right hl hr
      have ha : v.node.Assigns :=
        ⟨hk, Node.hasField_iff.mpr (by rw [hl]; rfl), Node.hasField_iff.mpr (by rw [hr]; rfl)⟩
      by_cases hm : v.node.ThroughMember
      · exact absurd ⟨ha, hm⟩ (h .memberWrite)
      · exact absurd ⟨ha, hm⟩ (h .update)
    · rfl
  case h_3 hk =>
    have hn : ¬ v.node.HasField "declarator" := fun hf => h .flow (.inr (.inr (.inr ⟨hk, hf⟩)))
    rw [Node.hasField_iff, Option.not_isSome_iff_eq_none] at hn
    rw [definition, hn]
    rfl
  case h_4 hk => exact absurd (.inl hk) (h .flow)
  case h_5 hk => exact absurd (.inr (.inl hk)) (h .flow)
  case h_6 hk => exact absurd (.inr (.inr (.inl hk))) (h .flow)
  case h_7 hk => exact absurd hk (h .return)
  case h_8 hk => exact absurd (.inl hk) (h .dataStructure)
  case h_9 hk => exact absurd (.inr hk) (h .dataStructure)
  case h_10 hk => exact absurd hk (h .allocation)
  case h_11 => rfl

end Visit

/-! ### The lines of the records -/

/-- All records of a trace carry one line. -/
def Trace.OnLine (line : Nat) (t : Trace) : Prop :=
  ∀ s ∈ Sequence.all, ∀ r ∈ s.of t, s.line r = line

theorem Trace.onLine_iff {line : Nat} {t : Trace} :
    t.OnLine line ↔ (∀ r ∈ t.declarations, r.line = line) ∧ (∀ r ∈ t.flow, r.line = line) ∧
      (∀ r ∈ t.steps, r.line = line) ∧ (∀ r ∈ t.updates, r.line = line) ∧
      (∀ r ∈ t.callStack, r.line = line) ∧ (∀ r ∈ t.returns, r.line = line) ∧
      (∀ r ∈ t.dataStructures, r.line = line) ∧ (∀ r ∈ t.memberWrites, r.line = line) ∧
      ∀ r ∈ t.allocations, r.line = line := by
  simp only [OnLine, Sequence.all, List.forall_mem_cons, List.not_mem_nil, false_imp_iff,
    implies_true, and_true]
  rfl

/-- **Every record carries the line of its node.** -/
theorem Visit.records_line (v : Visit) : v.records.OnLine v.node.line := by
  rw [Trace.onLine_iff]
  unfold records
  split
  case h_1 => unfold declaration; split <;> simp [Step.line]
  case h_2 =>
    unfold assignment
    split
    · simp only
      split <;> simp [Step.line]
    · simp
  case h_3 => unfold definition; split <;> simp [FlowNode.line]
  case h_6 => simp [call, FlowNode.line, Step.line]
  all_goals simp [forLoop, branch, returnValue, dataStructure, allocation, FlowNode.line, Step.line]

/-! ### Whole traces -/

theorem forall₂_filter_flatMap {α β : Type} {p : α → Prop} [DecidablePred p] {f : α → List β}
    {R : α → β → Prop} {as : List α}
    (h : ∀ a ∈ as, p a ∧ (∃ b, f a = [b] ∧ R a b) ∨ ¬ p a ∧ f a = []) :
    List.Forall₂ R (as.filter fun a => p a) (as.flatMap f) := by
  induction as with
  | nil => exact .nil
  | cons a as ih =>
      have ih := ih fun b hb => h b (List.mem_cons_of_mem a hb)
      rcases h a List.mem_cons_self with ⟨hp, b, hf, hR⟩ | ⟨hp, hf⟩
      · rw [List.filter_cons, if_pos (decide_eq_true hp), List.flatMap_cons, hf]
        exact .cons hR ih
      · rw [List.filter_cons, if_neg (by simpa using hp), List.flatMap_cons, hf]
        exact ih

namespace Node

variable (n : Node)

theorem recursiveTrace_eq_occurrences :
    n.recursiveTrace = .concat (n.occurrences.map fun o => o.visit.records) := by
  rw [recursiveTrace_eq_concat, visits_eq, List.map_map]
  rfl

theorem of_recursiveTrace (s : Sequence) :
    s.of n.recursiveTrace = n.occurrences.flatMap fun o => s.of o.visit.records := by
  rw [recursiveTrace_eq_occurrences, s.of_concat, List.flatMap_map]

/-- A sequence holds one record for each node that is its construct, in pre-order. -/
theorem constructs_match (c : Construct) :
    List.Forall₂ c.ComesFrom (n.constructs c) (c.sequence.of n.recursiveTrace) := by
  rw [of_recursiveTrace]
  apply forall₂_filter_flatMap
  intro o _
  cases o.visit.records_tell c with
  | one hp hr hl => exact .inl ⟨hp, _, hr, hr, hl⟩
  | none hp hr => exact .inr ⟨hp, hr⟩

theorem assignments_shared :
    (n.constructs .update).length + (n.constructs .memberWrite).length =
      (n.occurrences.filter fun o => o.node.Assigns).length := by
  unfold constructs Construct.Qualifies
  induction n.occurrences with
  | nil => rfl
  | cons o os ih =>
      by_cases ha : o.node.Assigns
      · by_cases hm : o.node.ThroughMember <;> simp_all <;> omega
      · simp_all

theorem isEmpty_recursiveTrace :
    n.recursiveTrace.isEmpty = true ↔
      ∀ o ∈ n.occurrences, ∀ c : Construct, ¬ c.Qualifies o.node := by
  rw [Trace.isEmpty_iff]
  constructor
  · intro he o ho c hq
    have hs := of_recursiveTrace n c.sequence
    rw [he, c.sequence.of_empty, eq_comm, List.flatMap_eq_nil_iff] at hs
    cases o.visit.records_tell c with
    | one _ hr _ =>
        rw [hs o ho] at hr
        cases hr
    | none hp _ => exact hp hq
  · intro h
    rw [recursiveTrace_eq_occurrences]
    apply Trace.concat_eq_empty
    intro t ht
    obtain ⟨o, ho, rfl⟩ := List.mem_map.mp ht
    exact Visit.records_eq_empty (h o ho)

/-- The lines of a sequence go up if the rows do: each node adds only records of its own line. -/
theorem lines_pairwise (h : (n.occurrences.map (·.node.label.row)).Pairwise (· ≤ ·))
    {s : Sequence} (hs : s ∈ Sequence.all) :
    ((s.of n.recursiveTrace).map s.line).Pairwise (· ≤ ·) := by
  rw [of_recursiveTrace, List.pairwise_map, List.pairwise_flatMap]
  have hline : ∀ o : Occurrence, ∀ r ∈ s.of o.visit.records, s.line r = o.node.line :=
    fun o => o.visit.records_line s hs
  constructor
  · intro o _
    apply List.pairwise_of_forall_mem_list
    intro r hr r' hr'
    rw [hline o r hr, hline o r' hr']
  · apply (List.pairwise_map.mp h).imp
    intro o p hle r hr r' hr'
    rw [hline o r hr, hline p r' hr']
    exact Nat.succ_le_succ hle

/-- **Every construct is recorded once and in order**, wherever it is nested: without bounds, the
records of each sequence come from the nodes that are its construct, the k-th from the k-th of
them in pre-order, and carry their lines.  An assignment is an update or a write through a member.
No other node adds anything, so a trace is empty if and only if no node qualifies; and where the
rows never go down along the pre-order, neither do the lines of any sequence. -/
theorem constructs_recorded_once :
    ∃ t, n.trace .unbounded = .ok t ∧
      (∀ c : Construct, List.Forall₂ c.ComesFrom (n.constructs c) (c.sequence.of t)) ∧
      t.updates.length + t.memberWrites.length =
        (n.occurrences.filter fun o => o.node.Assigns).length ∧
      t = .concat (n.occurrences.map fun o => o.visit.records) ∧
      (∀ o ∈ n.occurrences, (∀ c : Construct, ¬ c.Qualifies o.node) →
        o.visit.records = .empty) ∧
      (t.isEmpty = true ↔ ∀ o ∈ n.occurrences, ∀ c : Construct, ¬ c.Qualifies o.node) ∧
      ((n.occurrences.map (·.node.label.row)).Pairwise (· ≤ ·) →
        ∀ s ∈ Sequence.all, ((s.of t).map s.line).Pairwise (· ≤ ·)) := by
  have hu := (n.constructs_match .update).length_eq
  have hw := (n.constructs_match .memberWrite).length_eq
  refine ⟨n.recursiveTrace, n.trace_unbounded, n.constructs_match, ?_,
    n.recursiveTrace_eq_occurrences, fun o _ h => Visit.records_eq_empty h,
    n.isEmpty_recursiveTrace, fun h s hs => n.lines_pairwise h hs⟩
  rw [← n.assignments_shared, hu, hw]
  rfl

end Node

end Walkthrough
