import Walkthrough.Proofs.Walk.Recursion

/-! # Pointers and references around a declarator

A function that gives a pointer or a reference is declared through a stack of pointer and reference
declarators with the function declarator at its bottom.

* `Node.Wraps` says that a node is such a stack around a declarator.
* `Node.Wraps.functionName_eq`: the whole stack declares the name that the declarator declares.
* `Node.Wraps.recorded_eq`: at and below the stack the same is recorded as at and below the
  declarator alone, whatever the kind of the parent and the depth.
* `Node.wrappers_change_only_signature`: a function with a stack in place of its declarator gives
  the same trace, but for its signature. -/

namespace Walkthrough

/-- The same tree under another field of its parent. -/
def Node.under (n : Node) (field : Option String) : Node :=
  .mk { n.label with field := field } n.children

/-- The node is the declarator in a stack of pointer and reference declarators, none of them or
more.  Each of these holds the next one as its only named child, and either it is the only child
under the field `declarator`, or it is under no field and no child is under that one. -/
inductive Node.Wraps (d : Node) : Node → Prop
  | bare (field : Option String) : Wraps d (d.under field)
  | wrap {l : Label} {before after : List Node} {inner : Node} (h : Wraps d inner)
      (hkind : (Kind.ofTag l.tag).isWrapping = true) (hnamed : inner.label.named = true)
      (hfield : inner.label.field = some "declarator" ∨ inner.label.field = none)
      (htokens : ∀ m ∈ before ++ after,
        m.label.named = false ∧ m.label.field ≠ some "declarator") :
      Wraps d (.mk l (before ++ inner :: after))

/-! ### One child in place of another -/

namespace Node

variable {l : Label} {before after : List Node} {d w : Node}

theorem byField?_replace_of_ne {field : String} (hd : d.label.field ≠ some field)
    (hw : w.label.field ≠ some field) :
    (mk l (before ++ w :: after)).byField? field =
      (mk l (before ++ d :: after)).byField? field := by
  unfold byField?
  simp only [children, List.find?_append]
  rw [List.find?_cons_of_neg (by simpa using hw), List.find?_cons_of_neg (by simpa using hd)]

theorem byField?_replace_of_find?_eq_some {field : String} {m : Node}
    (h : before.find? (·.label.field == some field) = some m) :
    (mk l (before ++ d :: after)).byField? field = some m := by
  unfold byField?
  rw [children, List.find?_append, h, Option.some_or]

theorem byField?_replace_of_find?_eq_none {field : String}
    (h : before.find? (·.label.field == some field) = none) (hd : d.label.field = some field) :
    (mk l (before ++ d :: after)).byField? field = some d := by
  unfold byField?
  rw [children, List.find?_append, h, Option.none_or]
  exact List.find?_cons_of_pos (by simpa using hd)

theorem map_namedChildren_replace {α : Type} {f : Node → α}
    (hnamed : w.label.named = d.label.named) (hf : f w = f d) :
    (mk l (before ++ w :: after)).namedChildren.map f =
      (mk l (before ++ d :: after)).namedChildren.map f := by
  unfold namedChildren
  simp only [children, List.filter_append, List.map_append, List.filter_cons, hnamed]
  split
  · rw [List.map_cons, List.map_cons, hf]
  · rfl

end Node

/-! ### Declarators on the way of a walk -/

namespace Visit

theorem records_of_declarator {v : Visit}
    (h : v.node.kind = .functionDeclarator ∨ v.node.kind.isWrapping = true) :
    v.records = .empty ∧ v.scope = v.enclosing := by
  unfold records scope
  rcases h with hk | hk
  · rw [hk]
    exact ⟨rfl, rfl⟩
  · cases hc : v.node.kind <;> rw [hc] at hk <;> first | exact ⟨rfl, rfl⟩ | cases hk

theorem recorded_eq_of_depth (n : Node) (parent : Kind) (enclosing : Option String)
    (depth depth' : Nat) :
    (⟨n, parent, enclosing, depth⟩ : Visit).recorded =
      (⟨n, parent, enclosing, depth'⟩ : Visit).recorded := by
  induction n using Node.rec_namedChildren generalizing parent enclosing depth depth' with
  | step n ih =>
      have hown : (⟨n, parent, enclosing, depth⟩ : Visit).records =
          (⟨n, parent, enclosing, depth'⟩ : Visit).records := rfl
      rw [recorded_eq, recorded_eq, hown]
      congr 2
      apply List.map_congr_left
      intro m hm
      exact ih m hm _ _ _ _

end Visit

namespace Node.Wraps

variable {d w : Node}

section

variable {l : Label} {before after : List Node} {inner : Node}
  (htokens : ∀ m ∈ before ++ after, m.label.named = false ∧ m.label.field ≠ some "declarator")
include htokens

theorem namedChildren_eq (hnamed : inner.label.named = true) :
    (mk l (before ++ inner :: after)).namedChildren = [inner] := by
  have hnone : ∀ ms : List Node, (∀ m ∈ ms, m ∈ before ++ after) →
      ms.filter (·.label.named) = [] := by
    intro ms hms
    apply List.filter_eq_nil_iff.mpr
    intro m hm
    rw [(htokens m (hms m hm)).1]
    exact Bool.false_ne_true
  have hbefore := hnone before fun m hm => List.mem_append_left after hm
  have hafter := hnone after fun m hm => List.mem_append_right before hm
  have hkeep : (inner :: after).filter (·.label.named) = inner :: after.filter (·.label.named) :=
    List.filter_cons_of_pos hnamed
  unfold namedChildren
  rw [children, List.filter_append, hbefore, hkeep, hafter, List.nil_append]

/-- Each declarator of the stack is found in the one around it, by its field or else as the first
named child. -/
theorem inner?_eq (hnamed : inner.label.named = true)
    (hfield : inner.label.field = some "declarator" ∨ inner.label.field = none) :
    (mk l (before ++ inner :: after)).inner? = some inner := by
  have hnone : ∀ ms : List Node, (∀ m ∈ ms, m ∈ before ++ after) →
      ms.find? (·.label.field == some "declarator") = none := by
    intro ms hms
    apply List.find?_eq_none.mpr
    intro m hm
    simpa using (htokens m (hms m hm)).2
  have hbefore := hnone before fun m hm => List.mem_append_left after hm
  have hafter := hnone after fun m hm => List.mem_append_right before hm
  rcases hfield with hfield | hfield
  · rw [inner?, byField?_replace_of_find?_eq_none hbefore hfield, Option.some_or]
  · have hnot : (mk l (before ++ inner :: after)).byField? "declarator" = none := by
      unfold byField?
      rw [children, List.find?_append, hbefore, Option.none_or,
        List.find?_cons_of_neg (by simp [hfield]), hafter]
    rw [inner?, hnot, Option.none_or, namedChildren_eq htokens hnamed, List.head?_cons]

end

/-- **A stack declares what its declarator declares.** -/
theorem functionName_eq (h : d.Wraps w) (hd : d.kind = .functionDeclarator) :
    functionName w = functionName d := by
  induction h with
  | bare field =>
      have hk : (d.under field).kind = .functionDeclarator := hd
      rw [functionName_of_functionDeclarator hk, functionName_of_functionDeclarator hd]
      rfl
  | @wrap l before after inner _ hkind hnamed hfield htokens ih =>
      have hk : (mk l (before ++ inner :: after)).kind.isWrapping = true := hkind
      rw [functionName_of_isWrapping hk, inner?_eq htokens hnamed hfield, Option.map_some,
        Option.getD_some, ih]

/-- **A stack adds nothing to a trace**: the walk finds below it what it finds at the declarator,
in the same function. -/
theorem recorded_eq (h : d.Wraps w) (hd : d.kind = .functionDeclarator) (parent parent' : Kind)
    (enclosing : Option String) (depth depth' : Nat) :
    (⟨w, parent, enclosing, depth⟩ : Visit).recorded =
      (⟨d, parent', enclosing, depth'⟩ : Visit).recorded := by
  induction h generalizing parent depth with
  | bare field =>
      obtain ⟨hr, hs⟩ := Visit.records_of_declarator
        (v := ⟨d.under field, parent, enclosing, depth⟩) (.inl hd)
      obtain ⟨hr', hs'⟩ := Visit.records_of_declarator
        (v := ⟨d, parent', enclosing, depth'⟩) (.inl hd)
      rw [Visit.recorded_eq, Visit.recorded_eq, hr, hr']
      congr 2
      apply List.map_congr_left
      intro m _
      unfold Visit.child
      rw [hs, hs']
      exact Visit.recorded_eq_of_depth m d.kind enclosing _ _
  | @wrap l before after inner _ hkind hnamed _ htokens ih =>
      obtain ⟨hr, hs⟩ := Visit.records_of_declarator
        (v := ⟨mk l (before ++ inner :: after), parent, enclosing, depth⟩) (.inr hkind)
      have hchild := ih (mk l (before ++ inner :: after)).kind (depth + 1)
      rw [Visit.recorded_eq, hr, namedChildren_eq htokens hnamed, List.map_cons, List.map_nil,
        Trace.concat_cons, Trace.concat_nil, Trace.append_empty, Trace.empty_append]
      unfold Visit.child
      rw [hs]
      exact hchild

end Node.Wraps

/-! ### Functions with wrapped declarators -/

namespace Node

variable {l : Label} {before after : List Node} {d w : Node}

/-- The declarator of a function with one child in place of another, which stands under the field
`declarator`: either another child comes first in both, or these two are the declarators. -/
theorem declarator_replace (hd : d.label.field = some "declarator")
    (hw : w.label.field = some "declarator") (hname : functionName w = functionName d) :
    ∃ x x', (mk l (before ++ d :: after)).byField? "declarator" = some x ∧
      (mk l (before ++ w :: after)).byField? "declarator" = some x' ∧
      functionName x' = functionName x ∧
      ((∀ m ∈ before, m.label.field ≠ some "declarator") → x = d ∧ x' = w) := by
  cases hfind : before.find? (·.label.field == some "declarator") with
  | some m =>
      refine ⟨m, m, byField?_replace_of_find?_eq_some hfind,
        byField?_replace_of_find?_eq_some hfind, rfl, fun hfirst => ?_⟩
      have hm := hfirst m (List.mem_of_find?_eq_some hfind)
      exact absurd (by simpa using List.find?_some hfind) hm
  | none =>
      exact ⟨d, w, byField?_replace_of_find?_eq_none hfind hd,
        byField?_replace_of_find?_eq_none hfind hw, hname, fun _ => ⟨rfl, rfl⟩⟩

/-- What is recorded inside a function of the given name. -/
def bodyRecords (n : Node) (name : String) : Trace :=
  .concat (n.namedChildren.map fun c =>
    (⟨c, .functionDefinition, some name, 1⟩ : Visit).recorded)

theorem recursiveTrace_of_definition {n x : Node} (hk : n.kind = .functionDefinition)
    (hx : n.byField? "declarator" = some x) :
    n.recursiveTrace =
      ({ flow := [.functionDefinition (functionName x) x.text (n.fieldText? "body") n.line] } :
        Trace) ++ n.bodyRecords (functionName x) := by
  rw [recursiveTrace_eq_recorded, Visit.recorded_eq, Visit.records]
  simp only [Visit.child, Visit.scope, Visit.root, Visit.definition, bodyRecords, hk, hx,
    Option.map_some]

/-- **Pointers and references around the declarator of a function change only its signature.**  Let
a function definition have a function declarator under the field `declarator`, and let another one
have a stack of pointer and reference declarators around that declarator in its place.  The whole
stack declares the same name; and without bounds both give the same trace, but for the signature
that their first flow node carries, which is the text of the declarator that each of them has. -/
theorem wrappers_change_only_signature
    (hroot : (mk l (before ++ d :: after)).kind = .functionDefinition)
    (hd : d.kind = .functionDeclarator) (hfield : d.label.field = some "declarator")
    (hw : d.Wraps w) (hplace : w.label.field = d.label.field ∧ w.label.named = d.label.named) :
    functionName w = functionName d ∧
    ∃ t x x' body line flow,
      (mk l (before ++ d :: after)).trace .unbounded = .ok t ∧
      (mk l (before ++ d :: after)).byField? "declarator" = some x ∧
      (mk l (before ++ w :: after)).byField? "declarator" = some x' ∧
      t.flow = .functionDefinition (functionName x) x.text body line :: flow ∧
      (mk l (before ++ w :: after)).trace .unbounded =
        .ok { t with flow := .functionDefinition (functionName x) x'.text body line :: flow } ∧
      ((∀ m ∈ before, m.label.field ≠ some "declarator") → x = d ∧ x' = w) := by
  have hname := hw.functionName_eq hd
  have hfield' : w.label.field = some "declarator" := hplace.1.trans hfield
  obtain ⟨x, x', hx, hx', hxx, hfirst⟩ :=
    @declarator_replace l before after d w hfield hfield' hname
  have hbody : (mk l (before ++ w :: after)).fieldText? "body" =
      (mk l (before ++ d :: after)).fieldText? "body" := by
    have hd' : d.label.field ≠ some "body" := by simp [hfield]
    have hw' : w.label.field ≠ some "body" := by simp [hfield']
    unfold fieldText?
    rw [byField?_replace_of_ne hd' hw']
  have hinside : (mk l (before ++ w :: after)).bodyRecords (functionName x) =
      (mk l (before ++ d :: after)).bodyRecords (functionName x) :=
    congrArg Trace.concat (map_namedChildren_replace hplace.2 (hw.recorded_eq hd _ _ _ _ _))
  have hroot' : (mk l (before ++ w :: after)).kind = .functionDefinition := hroot
  have htrace := recursiveTrace_of_definition hroot hx
  have htrace' := recursiveTrace_of_definition hroot' hx'
  refine ⟨hname, (mk l (before ++ d :: after)).recursiveTrace, x, x',
    (mk l (before ++ d :: after)).fieldText? "body", (mk l (before ++ d :: after)).line,
    ((mk l (before ++ d :: after)).bodyRecords (functionName x)).flow, trace_unbounded _, hx, hx',
    ?_, ?_, hfirst⟩
  · rw [htrace]
    rfl
  · rw [trace_unbounded, htrace', htrace, hxx, hbody, hinside]
    rfl

/-- A declarator of a function with one parameter, under the given field. -/
def sampleDeclarator (field : Option String) : Node :=
  .mk ⟨"function_declarator", 0, "f(int n)", true, field⟩ [
    .mk ⟨"identifier", 0, "f", true, some "declarator"⟩ [],
    .mk ⟨"parameter_list", 0, "(int n)", true, some "parameters"⟩ []]

/-- The declarator of a function that gives a pointer to a reference: the outer one knows the inner
one by its field, and the inner one does not. -/
def sampleStack : Node :=
  .mk ⟨"pointer_declarator", 0, "*& f(int n)", true, some "declarator"⟩ [
    .mk ⟨"*", 0, "*", false, none⟩ [],
    .mk ⟨"reference_declarator", 0, "& f(int n)", true, some "declarator"⟩ [
      .mk ⟨"&", 0, "&", false, none⟩ [],
      sampleDeclarator none]]

/-- A body that calls the function itself. -/
def sampleBody : Node :=
  .mk ⟨"compound_statement", 0, "\x7b return f(n - 1); \x7d", true, some "body"⟩ [
    .mk ⟨"return_statement", 0, "return f(n - 1);", true, none⟩ [
      .mk ⟨"return", 0, "return", false, none⟩ [],
      .mk ⟨"call_expression", 0, "f(n - 1)", true, none⟩ [
        .mk ⟨"identifier", 0, "f", true, some "function"⟩ [],
        .mk ⟨"argument_list", 0, "(n - 1)", true, some "arguments"⟩ []]]]

/-- A function with the given declarator. -/
def sampleFunction (declarator : Node) : Node :=
  .mk ⟨"function_definition", 0, "T ...", true, none⟩
    ([.mk ⟨"type_identifier", 0, "T", true, some "type"⟩ []] ++ declarator :: [sampleBody])

theorem sampleStack_wraps : (sampleDeclarator (some "declarator")).Wraps sampleStack := by
  have hreference : (sampleDeclarator (some "declarator")).Wraps
      (.mk ⟨"reference_declarator", 0, "& f(int n)", true, some "declarator"⟩
        ([.mk ⟨"&", 0, "&", false, none⟩ []] ++ sampleDeclarator none :: [])) := by
    exact .wrap (.bare none) rfl rfl (.inr rfl) (by simp [label])
  exact @Wraps.wrap _ _ [.mk ⟨"*", 0, "*", false, none⟩ []] [] _ hreference rfl rfl (.inl rfl)
    (by simp [label])

/-- The sample with and without its stack: the call of the function from its own body is found in
both, and the signatures differ. -/
theorem sampleStack_changes_signature :
    (sampleDeclarator (some "declarator")).Wraps sampleStack ∧
    ∃ t body line flow,
      (sampleFunction (sampleDeclarator (some "declarator"))).trace .unbounded = .ok t ∧
      t.flow = .functionDefinition "f" "f(int n)" body line :: flow ∧
      t.callStack = [⟨"f", some "(n - 1)", 1⟩] ∧
      (sampleFunction sampleStack).trace .unbounded =
        .ok { t with flow := .functionDefinition "f" "*& f(int n)" body line :: flow } := by
  have hname : functionName (sampleDeclarator (some "declarator")) = "f" :=
    functionName_of_functionDeclarator rfl
  obtain ⟨-, t, x, x', body, line, flow, ht, -, -, hflow, ht', hfirst⟩ :=
    @wrappers_change_only_signature (sampleFunction sampleStack).label
      [.mk ⟨"type_identifier", 0, "T", true, some "type"⟩ []] [sampleBody]
      (sampleDeclarator (some "declarator")) sampleStack rfl rfl rfl sampleStack_wraps ⟨rfl, rfl⟩
  obtain ⟨rfl, rfl⟩ := hfirst (by simp [label])
  rw [hname] at hflow ht'
  refine ⟨sampleStack_wraps, t, body, line, flow, ht, hflow, ?_, ht'⟩
  rw [trace_unbounded] at ht
  rw [← Except.ok.inj ht]
  decide +kernel

end Node

end Walkthrough
