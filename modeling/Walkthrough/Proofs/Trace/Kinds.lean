import Mathlib.Data.List.Nodup
import Walkthrough.Proofs.Walk.Recursion
import Walkthrough.Tree.Tags

/-! # What a trace knows of tags

A walk reads tags at four places: at the node that it visits, at the declarators of a function, on
the left of an assignment and in the body of a structure.  At each it asks for the kind of a tag
and for nothing else.

* `Visit.preorder_retag`, `Visit.records_retag`: a tree with other tags of the same kinds is walked
  in the same way, and every visit records the same.
* `Node.form` is a tree in which a tag can be filled in; its trace tells the kind of that tag
  (`Node.form_injective`).
* `Node.trace_knows_kinds`: tags of the same kinds give the same trace or break the same limit, and
  only such tags may be put for one another in every tree. -/

namespace Walkthrough

/-! ### Look-ups that ask for kinds -/

namespace Node

theorem inner?_retag (f : String → String) (n : Node) :
    (n.retag f).inner? = n.inner?.map (retag f) := by
  unfold inner?
  rw [byField?_retag, namedChildren_retag, List.head?_map, Option.map_or]

theorem callee_retag (f : String → String) (n : Node) :
    Visit.callee (n.retag f) = Visit.callee n := by
  unfold Visit.callee
  rw [child?_retag, map_text_map_retag]

theorem returned_retag (f : String → String) (n : Node) :
    Visit.returned (n.retag f) = Visit.returned n := by
  unfold Visit.returned
  rw [namedChildren_retag, List.head?_map, map_text_map_retag]

variable {f : String → String} (hf : ∀ t, Kind.ofTag (f t) = Kind.ofTag t)
include hf

theorem functionName_retag (n : Node) : functionName (n.retag f) = functionName n := by
  induction hs : n.size using Nat.strongRecOn generalizing n with
  | ind s ih =>
      subst hs
      apply functionName_congr (kind_retag hf n) (text_retag f n) (fieldText?_retag f n _)
      intro _
      rw [inner?_retag]
      cases hi : n.inner? with
      | none => rfl
      | some m =>
          rw [Option.map_some, Option.map_some, Option.map_some,
            ih m.size (size_lt_of_inner? hi) m rfl]

theorem structFields_retag (n : Node) : structFields (n.retag f) = structFields n := by
  unfold structFields
  rw [byField?_retag]
  cases n.byField? "body" with
  | none => rfl
  | some body =>
      have hmember : (fun m : Node => m.kind == .fieldDeclaration) ∘ retag f =
          fun m => m.kind == .fieldDeclaration :=
        funext fun m => by rw [Function.comp_apply, kind_retag hf]
      simp only [Option.map_some]
      rw [namedChildren_retag, List.filter_map, List.map_map, hmember]
      apply List.map_congr_left
      intro m _
      simp only [Function.comp_apply, fieldText?_retag]

end Node

/-! ### Single visits -/

namespace Visit

/-- The visit of the node with other tags. -/
def retag (f : String → String) (v : Visit) : Visit := { v with node := v.node.retag f }

section

variable {f : String → String} (hf : ∀ t, Kind.ofTag (f t) = Kind.ofTag t) (v : Visit)
include hf

theorem alike_retag : v.Alike (v.retag f) :=
  ⟨v.node.kind_retag hf, v.node.line_retag f, v.node.fieldText?_retag f⟩

theorem assignment_retag : (v.retag f).assignment = v.assignment := by
  unfold assignment retag
  simp only [Node.byField?_retag]
  cases v.node.byField? "left" with
  | none => rfl
  | some left =>
      cases v.node.byField? "right" with
      | none => rfl
      | some right =>
          simp only [Option.map_some, Node.kind_retag hf, Node.text_retag, Node.line_retag,
            Node.namedChildren_retag, List.getElem?_map, Node.map_text_map_retag]

theorem definition_retag : (v.retag f).definition = v.definition := by
  unfold definition retag
  simp only [Node.byField?_retag]
  cases v.node.byField? "declarator" with
  | none => rfl
  | some d =>
      simp only [Option.map_some, Node.functionName_retag hf, Node.text_retag, Node.line_retag,
        Node.fieldText?_retag]

/-- **A visit records the same** if its tags are of the same kinds. -/
theorem records_retag : (v.retag f).records = v.records := by
  have h := v.alike_retag hf
  unfold records
  rw [h.kind]
  cases v.node.kind with
  | initDeclarator => exact h.declaration_eq rfl
  | assignmentExpression => exact v.assignment_retag hf
  | functionDefinition => exact v.definition_retag hf
  | forStatement => exact h.forLoop_eq
  | ifStatement => exact h.branch_eq
  | callExpression => exact h.call_eq (v.node.callee_retag f) rfl
  | returnStatement => exact h.returnValue_eq (v.node.returned_retag f)
  | structSpecifier => exact h.dataStructure_eq (v.node.structFields_retag hf) _
  | classSpecifier => exact h.dataStructure_eq (v.node.structFields_retag hf) _
  | newExpression => exact h.allocation_eq
  | _ => rfl

theorem scope_retag : (v.retag f).scope = v.scope := by
  have hd : (v.retag f).node.byField? "declarator" =
      (v.node.byField? "declarator").map (Node.retag f) := v.node.byField?_retag f _
  have hname : functionName ∘ Node.retag f = functionName := funext (Node.functionName_retag hf)
  unfold scope
  rw [(v.alike_retag hf).kind, hd, Option.map_map, hname]
  rfl

/-! ### The walk -/

theorem next_retag : (v.retag f).next = v.next.map (retag f) := by
  have hc : (v.retag f).node.namedChildren = v.node.namedChildren.map (Node.retag f) :=
    v.node.namedChildren_retag f
  unfold next
  rw [hc, List.map_map, List.map_map]
  apply List.map_congr_left
  intro n _
  simp only [Function.comp_apply, child, (v.alike_retag hf).kind, v.scope_retag hf]
  rfl

/-- **The walk takes the same way.** -/
theorem preorder_retag (v : Visit) : (v.retag f).preorder = v.preorder.map (retag f) := by
  obtain ⟨n, parent, enclosing, depth⟩ := v
  induction n using Node.rec_namedChildren generalizing parent enclosing depth with
  | step n ih =>
      rw [preorder_eq, preorder_eq, next_retag hf, List.map_cons, List.flatMap_map,
        List.map_flatMap]
      congr 1
      apply List.flatMap_congr
      intro w hw
      obtain ⟨m, hm, rfl⟩ := List.mem_map.mp hw
      exact ih m hm _ _ _

end

end Visit

namespace Node

theorem trace_retag {f : String → String} (hf : ∀ t, Kind.ofTag (f t) = Kind.ofTag t) (n : Node)
    (limits : Limits) : (n.retag f).trace limits = n.trace limits := by
  have hvisits : (n.retag f).visits = n.visits.map (Visit.retag f) :=
    Visit.preorder_retag hf (.root n)
  have hrecords : Visit.records ∘ Visit.retag f = Visit.records :=
    funext fun v => v.records_retag hf
  have hbroken := Limits.firstBroken?_map (f := Visit.retag f) (fun _ => rfl) limits 0 n.visits
  rw [trace_eq, trace_eq, hvisits, List.map_map, hrecords, hbroken]

theorem trace_canonical (n : Node) (limits : Limits) :
    n.canonical.trace limits = n.trace limits :=
  trace_retag (fun t => (Kind.ofTag t).ofTag_tag) n limits

theorem SameKinds.trace_eq {n n' : Node} (h : n.SameKinds n') (limits : Limits) :
    n'.trace limits = n.trace limits := by
  rw [← trace_canonical n', h.canonical_eq, trace_canonical]

end Node

/-! ### Kinds are told apart -/

/-- All kinds. -/
def Kind.all : List Kind :=
  [.initDeclarator, .assignmentExpression, .functionDefinition, .forStatement, .ifStatement,
    .callExpression, .returnStatement, .structSpecifier, .classSpecifier, .newExpression,
    .fieldDeclaration, .fieldExpression, .pointerDeclarator, .referenceDeclarator,
    .functionDeclarator, .other]

theorem Kind.mem_all (k : Kind) : k ∈ all := by cases k <;> decide

namespace Node

/-- A node whose tag is left blank, with children for whatever it may turn out to be. -/
def blank (field : Option String) : Node :=
  .mk ⟨"", 0, "outer", true, field⟩ [
    .mk ⟨"function_declarator", 0, "inner", true, some "declarator"⟩ [
      .mk ⟨"identifier", 0, "innermost", true, some "declarator"⟩ []],
    .mk ⟨"identifier", 0, "x", true, some "left"⟩ [],
    .mk ⟨"identifier", 0, "y", true, some "right"⟩ [],
    .mk ⟨"init_declarator", 0, "z", true, none⟩ [
      .mk ⟨"identifier", 0, "z", true, some "declarator"⟩ []]]

/-- A tree with the blank node at each place where a walk reads tags. -/
def form : Node :=
  .mk ⟨"translation_unit", 0, "", true, none⟩ [
    .mk ⟨"function_definition", 0, "", true, none⟩ [blank (some "declarator")],
    .mk ⟨"assignment_expression", 0, "", true, none⟩ [blank (some "left"),
      .mk ⟨"identifier", 0, "x", true, some "right"⟩ []],
    .mk ⟨"struct_specifier", 0, "", true, none⟩ [
      .mk ⟨"field_declaration_list", 0, "", true, some "body"⟩ [blank none]]]

/-- Writes a tag where one is left blank. -/
def fill (t s : String) : String := if s = "" then t else s

/-- **The form tells the kind that is filled in.** -/
theorem form_injective : Function.Injective fun k : Kind =>
    (form.retag (fill k.tag)).recursiveTrace := by
  have hnodup : (Kind.all.map fun k => (form.retag (fill k.tag)).recursiveTrace).Nodup := by
    decide +kernel
  intro k k' h
  exact List.inj_on_of_nodup_map hnodup k.mem_all k'.mem_all h

end Node

/-- One tag may be put for the other at any nodes of any tree: the trace, or the limit that is
broken, stays the same. -/
def Interchangeable (t t' : String) : Prop :=
  ∀ (n n' : Node) (limits : Limits), n.Retagged (fun s s' => s' = s ∨ s = t ∧ s' = t') n' →
    n'.trace limits = n.trace limits

namespace Node

theorem recursiveTrace_form (t : String) :
    (form.retag (fill t)).recursiveTrace =
      (form.retag (fill (Kind.ofTag t).tag)).recursiveTrace := by
  have hs : (form.retag (fill t)).SameKinds (form.retag (fill (Kind.ofTag t).tag)) := by
    apply retagged_retag
    intro s
    unfold fill
    split
    · exact (Kind.ofTag_tag _).symm
    · rfl
  have ht := hs.trace_eq .unbounded
  rw [trace_unbounded, trace_unbounded] at ht
  exact (Except.ok.inj ht).symm

end Node

/-- **Tags may be put for one another exactly if they are of the same kind.** -/
theorem interchangeable_iff {t t' : String} :
    Interchangeable t t' ↔ Kind.ofTag t = Kind.ofTag t' := by
  constructor
  · intro h
    have hform : (Node.form.retag (Node.fill t)).Retagged
        (fun s s' => s' = s ∨ s = t ∧ s' = t') (Node.form.retag (Node.fill t')) := by
      apply Node.retagged_retag
      intro s
      unfold Node.fill
      split
      · exact .inr ⟨rfl, rfl⟩
      · exact .inl rfl
    have ht := h _ _ .unbounded hform
    rw [Node.trace_unbounded, Node.trace_unbounded] at ht
    apply Node.form_injective
    exact (Node.recursiveTrace_form t).symm.trans
      ((Except.ok.inj ht).symm.trans (Node.recursiveTrace_form t'))
  · intro h n n' limits hn
    have hs : n.SameKinds n' := by
      apply hn.mono
      rintro s s' (rfl | ⟨rfl, rfl⟩)
      · rfl
      · exact h
    exact hs.trace_eq limits

/-- The keyword of a data structure is recorded, so its kind matters. -/
example : ¬ Interchangeable "struct_specifier" "class_specifier" :=
  fun h => absurd (interchangeable_iff.mp h) (by decide)

/-- **A trace knows tags by their kinds only.**  Whatever the limits, two trees that agree but for
tags of the same kinds give the same trace or break the same limit, and so does a tree with
canonical tags.  Nothing less than the kinds would do: one tag may be put for another at any nodes
of every tree exactly if they are the same, or the two tags of a field expression, or both
unknown. -/
theorem Node.trace_knows_kinds :
    (∀ (n n' : Node) (limits : Limits), n.SameKinds n' → n'.trace limits = n.trace limits) ∧
    (∀ (n : Node) (limits : Limits), n.canonical.trace limits = n.trace limits) ∧
    ∀ t t' : String, Interchangeable t t' ↔
      t = t' ∨ (t ∈ Kind.tags .fieldExpression ∧ t' ∈ Kind.tags .fieldExpression) ∨
        ∀ k : Kind, t ∉ k.tags ∧ t' ∉ k.tags := by
  refine ⟨fun n n' limits h => h.trace_eq limits, trace_canonical, ?_⟩
  intro t t'
  rw [interchangeable_iff, Kind.ofTag_eq_ofTag_iff]

end Walkthrough
