import Walkthrough.Proofs.Walk.Context
import Walkthrough.Tree.Comment

/-! # What comments do to a trace

A walk looks most things up by field or by the position among all children, where comments do not
interfere.  Three look-ups go by the position among the named children, and a comment can take it:
the declarator that a pointer or reference declarator holds if it has none under the field, the
object and member on the left of an assignment, and the value that a return gives back.

* `Trace.blur` leaves out of a trace what depends on these look-ups, `Trace.found` is what they
  found, and `Node.found` is what they find in a tree.
* `Node.positional` is how many named children of a node are looked up by position.
* `Visit.recorded_commented` carries an agreement of single visits through both trees,
  `Visit.recorded_eq_of_found` an agreement of what is found.
* `Node.comments_change_only_positional_lookups`: comments change nothing that is left by `blur`,
  and nothing at all exactly if the same is found; so it is where they come behind the children
  that are looked up by position. -/

namespace Walkthrough

/-! ### What depends on positions -/

/-- A flow node without the name of a defined function. -/
def FlowNode.blur : FlowNode → FlowNode
  | functionDefinition _ signature body line => functionDefinition "" signature body line
  | f => f

/-- A step without a returned value. -/
def Step.blur : Step → Step
  | .return line _ => .return line ""
  | s => s

/-- A trace without the names of functions and the calls that are told from them, without returned
values, and without the objects and members that are written through. -/
def Trace.blur (t : Trace) : Trace :=
  { t with
    flow := t.flow.map FlowNode.blur
    steps := t.steps.map Step.blur
    callStack := []
    returns := t.returns.map fun r => { r with value := "" }
    memberWrites := t.memberWrites.map fun w => { w with object := none, member := none } }

theorem Trace.blur_append (a b : Trace) : (a ++ b).blur = a.blur ++ b.blur := by
  show blur (append a b) = append a.blur b.blur
  simp [blur, append]

/-- What is looked up by a position among named children. -/
inductive LookUp
  | function
  | target
  | returned

/-- The name of a defined function. -/
def FlowNode.defined? : FlowNode → Option String
  | functionDefinition name _ _ _ => some name
  | _ => none

/-- What a look-up found for a trace, in order. -/
def Trace.found (t : Trace) : LookUp → List (Option String)
  | .function => (t.flow.filterMap FlowNode.defined?).map some
  | .target => t.memberWrites.flatMap fun w => [w.object, w.member]
  | .returned => t.returns.map fun r => some r.value

theorem Trace.found_append (a b : Trace) (l : LookUp) :
    (a ++ b).found l = a.found l ++ b.found l := by
  show (append a b).found l = _
  cases l <;> simp [found, append]

theorem Trace.found_concat (ts : List Trace) (l : LookUp) :
    (concat ts).found l = ts.flatMap (·.found l) := by
  induction ts with
  | nil => cases l <;> rfl
  | cons t ts ih => rw [concat_cons, found_append, ih, List.flatMap_cons]

theorem Trace.length_found_of_blur_eq {t t' : Trace} (h : t'.blur = t.blur) (l : LookUp) :
    (t'.found l).length = (t.found l).length := by
  have hb : ∀ t : Trace, (t.found l).length = (t.blur.found l).length := by
    intro t
    cases l with
    | function =>
        have hf : ∀ f : FlowNode, f.blur.defined?.isSome = f.defined?.isSome := by
          intro f
          cases f <;> rfl
        simp [found, blur, List.length_filterMap_eq_countP, hf]
    | target => simp [found, blur, List.flatMap_map]
    | returned => simp [found, blur]
  rw [hb t', h, ← hb t]

/-- What is found by position at a node. -/
def Node.foundAt (n : Node) : LookUp → List (Option String)
  | .function =>
    if n.kind = .functionDefinition then
      (n.byField? "declarator").toList.map fun d => some (functionName d)
    else []
  | .target =>
    if n.kind = .assignmentExpression then
      match n.byField? "left", n.byField? "right" with
      | some left, some _ =>
        if Clue.targetsMember left.kind left.text then
          [left.namedChildren[0]?.map (·.text), left.namedChildren[1]?.map (·.text)]
        else []
      | _, _ => []
    else []
  | .returned => if n.kind = .returnStatement then [some (Visit.returned n)] else []

/-- What is found by position in a tree, in pre-order. -/
def Node.found (n : Node) (l : LookUp) : List (Option String) :=
  n.occurrences.flatMap fun o => o.node.foundAt l

theorem Visit.found_records (v : Visit) (l : LookUp) : v.records.found l = v.node.foundAt l := by
  unfold records Node.foundAt
  cases hk : v.node.kind with
  | functionDefinition =>
      unfold definition
      cases v.node.byField? "declarator" <;> cases l <;> rfl
  | assignmentExpression =>
      unfold assignment
      cases v.node.byField? "left" with
      | none => cases l <;> rfl
      | some left =>
          cases v.node.byField? "right" with
          | none => cases l <;> rfl
          | some right =>
              cases hm : Clue.targetsMember left.kind left.text <;> cases l <;> simp [hm] <;> rfl
  | initDeclarator =>
      unfold declaration
      cases v.node.fieldText? "declarator" <;> cases l <;> rfl
  | _ => cases l <;> rfl

/-! ### Single visits -/

namespace Visit

section

variable {reserved : Node → Nat} {v v' : Visit} (h : v.node.Commented reserved v'.node)
include h

theorem alike_commented : v.Alike v' := ⟨h.kind, h.line, h.fieldText?⟩

theorem call_commented :
    v'.call.blur = v.call.blur ∧ (v'.enclosing = v.enclosing → v'.call = v.call) := by
  refine ⟨?_, (alike_commented h).call_eq h.callee⟩
  unfold call
  simp only [h.callee, h.fieldText?, h.line]
  rfl

theorem defined_eq_of_foundAt (hk : v.node.kind = .functionDefinition)
    (hf : v'.node.foundAt .function = v.node.foundAt .function) :
    (v'.node.byField? "declarator").map functionName =
      (v.node.byField? "declarator").map functionName := by
  simp only [Node.foundAt, h.kind, hk, if_true] at hf
  rcases cases_of_rel (h.byField? "declarator") with ⟨hd, hd'⟩ | ⟨d, d', hd, hd', -⟩
  · rw [hd, hd']
  · rw [hd, hd'] at hf ⊢
    exact List.head_eq_of_cons_eq hf

theorem definition_commented (hk : v.node.kind = .functionDefinition) :
    v'.definition.blur = v.definition.blur ∧
    (v'.node.foundAt .function = v.node.foundAt .function → v'.definition = v.definition) := by
  have hn := defined_eq_of_foundAt h hk
  unfold definition
  rw [h.fieldText?, h.line]
  rcases cases_of_rel (h.byField? "declarator") with ⟨hd, hd'⟩ | ⟨d, d', hd, hd', hdd⟩
  · rw [hd, hd']
    exact ⟨rfl, fun _ => rfl⟩
  · rw [hd, hd'] at hn ⊢
    simp only [hdd.text]
    refine ⟨rfl, fun hf => ?_⟩
    rw [Option.some.inj (hn hf)]

theorem assignment_commented (hk : v.node.kind = .assignmentExpression) :
    v'.assignment.blur = v.assignment.blur ∧
    (v'.node.foundAt .target = v.node.foundAt .target → v'.assignment = v.assignment) := by
  unfold assignment
  simp only [Node.foundAt, h.kind, hk, h.line]
  rcases cases_of_rel (h.byField? "left") with ⟨hl, hl'⟩ | ⟨left, left', hl, hl', hll⟩
  · rw [hl, hl']
    exact ⟨rfl, fun _ => rfl⟩
  rcases cases_of_rel (h.byField? "right") with ⟨hr, hr'⟩ | ⟨right, right', hr, hr', hrr⟩
  · rw [hl, hl', hr, hr']
    exact ⟨rfl, fun _ => rfl⟩
  simp only [hl, hl', hr, hr', hll.text, hll.kind, hrr.text]
  split
  · refine ⟨rfl, fun hf => ?_⟩
    obtain ⟨h0, h1⟩ := List.cons.inj hf
    rw [h0, List.head_eq_of_cons_eq h1]
  · exact ⟨rfl, fun _ => rfl⟩

theorem returnValue_commented (hk : v.node.kind = .returnStatement) :
    v'.returnValue.blur = v.returnValue.blur ∧
    (v'.node.foundAt .returned = v.node.foundAt .returned → v'.returnValue = v.returnValue) := by
  constructor
  · unfold returnValue
    rw [h.line]
    rfl
  · intro hf
    simp only [Node.foundAt, h.kind, hk, if_true] at hf
    exact (alike_commented h).returnValue_eq (Option.some.inj (List.head_eq_of_cons_eq hf))

/-- Comments change at most what is blurred, and nothing if they do not change what is found. -/
theorem records_commented (hp : v'.parent = v.parent) :
    v'.records.blur = v.records.blur ∧
    (v'.enclosing = v.enclosing → (∀ l, v'.node.foundAt l = v.node.foundAt l) →
      v'.records = v.records) := by
  have same : ∀ {a b : Trace}, a = b → a.blur = b.blur ∧ (v'.enclosing = v.enclosing →
      (∀ l, v'.node.foundAt l = v.node.foundAt l) → a = b) :=
    fun e => ⟨congrArg Trace.blur e, fun _ _ => e⟩
  have ha := alike_commented h
  unfold records
  rw [h.kind]
  cases hk : v.node.kind with
  | initDeclarator => exact same (ha.declaration_eq hp)
  | assignmentExpression =>
      obtain ⟨hb, hf⟩ := assignment_commented h hk
      exact ⟨hb, fun _ hfound => hf (hfound .target)⟩
  | functionDefinition =>
      obtain ⟨hb, hf⟩ := definition_commented h hk
      exact ⟨hb, fun _ hfound => hf (hfound .function)⟩
  | forStatement => exact same ha.forLoop_eq
  | ifStatement => exact same ha.branch_eq
  | callExpression =>
      obtain ⟨hb, he⟩ := call_commented h
      exact ⟨hb, fun henclosing _ => he henclosing⟩
  | returnStatement =>
      obtain ⟨hb, hf⟩ := returnValue_commented h hk
      exact ⟨hb, fun _ hfound => hf (hfound .returned)⟩
  | structSpecifier => exact same (ha.dataStructure_eq h.structFields _)
  | classSpecifier => exact same (ha.dataStructure_eq h.structFields _)
  | newExpression => exact same ha.allocation_eq
  | _ => exact same rfl

theorem scope_commented (he : v'.enclosing = v.enclosing)
    (hf : v'.node.foundAt .function = v.node.foundAt .function) : v'.scope = v.scope := by
  unfold scope
  rw [h.kind]
  split
  · exact defined_eq_of_foundAt h ‹_› hf
  · exact he

end

end Visit

/-! ### Comments behind what is looked up -/

/-- The number of named children that are looked up by position: the object and the member on the
left of an assignment, a returned expression, and a declarator that is held without a field. -/
def Node.positional (n : Node) : Nat :=
  if n.label.field = some "left" ∧ Clue.targetsMember n.kind n.text = true then 2
  else if n.kind = .returnStatement ∨
      n.kind.isWrapping = true ∧ n.byField? "declarator" = none then 1
  else 0

theorem Node.positional_of_left {n left : Node} (h : n.byField? "left" = some left)
    (hm : Clue.targetsMember left.kind left.text = true) : left.positional = 2 := by
  unfold byField? at h
  have hf : left.label.field = some "left" := by simpa using List.find?_some h
  exact if_pos ⟨hf, hm⟩

theorem Node.positional_pos {n : Node} (h : n.kind = .returnStatement ∨
    n.kind.isWrapping = true ∧ n.byField? "declarator" = none) : 0 < n.positional := by
  unfold positional
  rw [if_pos h]
  split <;> omega

namespace Node.Commented

theorem inner? {n n' : Node} (h : n.Commented Node.positional n') (hw : n.kind.isWrapping = true) :
    Option.Rel (Node.Commented Node.positional) n.inner? n'.inner? := by
  unfold Node.inner?
  rcases cases_of_rel (h.byField? "declarator") with ⟨hd, hd'⟩ | ⟨d, d', hd, hd', hdd⟩
  · rw [hd, hd', Option.none_or, Option.none_or, List.head?_eq_getElem?, List.head?_eq_getElem?]
    exact h.namedChild? (Node.positional_pos (.inr ⟨hw, hd⟩))
  · rw [hd, hd']
    exact .some hdd

theorem functionName {n n' : Node} (h : n.Commented Node.positional n') :
    Walkthrough.functionName n' = Walkthrough.functionName n := by
  induction hs : n.size using Nat.strongRecOn generalizing n n' with
  | ind s ih =>
      subst hs
      apply functionName_congr h.kind h.text (h.fieldText? _)
      intro hw
      rcases cases_of_rel (h.inner? hw) with ⟨hi, hi'⟩ | ⟨m, m', hi, hi', hm⟩
      · rw [hi, hi']
      · rw [hi, hi', Option.map_some, Option.map_some, ih _ (Node.size_lt_of_inner? hi) hm rfl]

theorem foundAt {n n' : Node} (h : n.Commented Node.positional n') (l : LookUp) :
    n'.foundAt l = n.foundAt l := by
  unfold Node.foundAt
  simp only [h.kind]
  cases l with
  | function =>
      rcases cases_of_rel (h.byField? "declarator") with ⟨hd, hd'⟩ | ⟨d, d', hd, hd', hdd⟩
      · rw [hd, hd']
      · simp only [hd, hd', Option.toList_some, List.map_cons, List.map_nil, hdd.functionName]
  | target =>
      rcases cases_of_rel (h.byField? "left") with ⟨hl, hl'⟩ | ⟨left, left', hl, hl', hll⟩
      · simp only [hl, hl']
      rcases cases_of_rel (h.byField? "right") with ⟨hr, hr'⟩ | ⟨right, right', hr, hr', -⟩
      · simp only [hl, hl', hr, hr']
      simp only [hl, hl', hr, hr', hll.text, hll.kind]
      by_cases hm : Clue.targetsMember left.kind left.text = true
      · have h2 := Node.positional_of_left hl hm
        have h0 := map_eq_of_rel (hll.namedChild? (i := 0) (by omega)) fun _ _ => text
        have h1 := map_eq_of_rel (hll.namedChild? (i := 1) (by omega)) fun _ _ => text
        rw [h0, h1]
      · simp only [if_neg hm]
  | returned =>
      by_cases hk : n.kind = .returnStatement
      · have hc := h.namedChild? (Node.positional_pos (.inl hk))
        unfold Visit.returned
        rw [List.head?_eq_getElem?, List.head?_eq_getElem?, map_eq_of_rel hc fun _ _ => text]
      · simp only [if_neg hk]

end Node.Commented

/-! ### Whole trees -/

theorem Trace.found_append_inj {a b c d : Trace} (hb : a.blur = c.blur)
    (h : ∀ l, (a ++ b).found l = (c ++ d).found l) :
    (∀ l, a.found l = c.found l) ∧ ∀ l, b.found l = d.found l := by
  have hsplit : ∀ l, a.found l = c.found l ∧ b.found l = d.found l := by
    intro l
    have hl := h l
    rw [found_append, found_append] at hl
    exact List.append_inj hl (length_found_of_blur_eq hb l)
  exact ⟨fun l => (hsplit l).1, fun l => (hsplit l).2⟩

namespace Interspersed

variable {R : Node → Node → Prop} {k : Nat} {ns ns' : List Node} {f g : Node → Trace}

theorem concat_eq {m : Trace → Trace} (hm : ∀ a b, m (a ++ b) = m a ++ m b)
    (h : Interspersed R k ns ns') (hR : ∀ n ∈ ns, ∀ n', R n n' → m (g n') = m (f n))
    (hc : ∀ n, n.IsComment → g n = .empty) :
    m (.concat (ns'.map g)) = m (.concat (ns.map f)) := by
  induction h with
  | nil => rfl
  | @keep k n n' ns ns' hn _ ih =>
      rw [List.map_cons, List.map_cons, Trace.concat_cons, Trace.concat_cons, hm, hm,
        hR n List.mem_cons_self n' hn, ih fun b hb => hR b (List.mem_cons_of_mem n hb)]
  | comment hn _ ih =>
      rw [List.map_cons, Trace.concat_cons, hc _ hn, Trace.empty_append]
      exact ih hR

/-- Where nodes that correspond are blurred alike, the same is found for two rows only if it is
found for these nodes. -/
theorem concat_eq_of_found (h : Interspersed R k ns ns')
    (hb : ∀ n n', R n n' → (g n').blur = (f n).blur)
    (hR : ∀ n ∈ ns, ∀ n', R n n' → (∀ l, (g n').found l = (f n).found l) → g n' = f n)
    (hc : ∀ n, n.IsComment → g n = .empty)
    (hf : ∀ l, (Trace.concat (ns'.map g)).found l = (Trace.concat (ns.map f)).found l) :
    Trace.concat (ns'.map g) = Trace.concat (ns.map f) := by
  induction h with
  | nil => rfl
  | @keep k n n' ns ns' hn _ ih =>
      simp only [List.map_cons, Trace.concat_cons] at hf ⊢
      obtain ⟨hhead, htail⟩ := Trace.found_append_inj (hb n n' hn) hf
      rw [hR n List.mem_cons_self n' hn hhead,
        ih (fun b hb => hR b (List.mem_cons_of_mem n hb)) htail]
  | comment hn _ ih =>
      simp only [List.map_cons, Trace.concat_cons, hc _ hn, Trace.empty_append] at hf ⊢
      exact ih hR hf

end Interspersed

namespace Visit

theorem recorded_of_isComment {v : Visit} (h : v.node.IsComment) : v.recorded = .empty := by
  have hn : v.node.namedChildren = [] := by
    unfold Node.namedChildren
    rw [h.2.2.2]
    rfl
  rw [recorded_eq, hn, records, h.kind]
  rfl

variable {reserved : Node → Nat}

/-- **An agreement of single visits carries over to trees.**  If visits of corresponding nodes
record the same in some reading, and hand on contexts that are related, then the two trees record
the same in this reading: comments add visits, but no records. -/
theorem recorded_commented {m : Trace → Trace} {E : Option String → Option String → Prop}
    (hm : ∀ a b, m (a ++ b) = m a ++ m b)
    (hv : ∀ v v' : Visit, v.node.Commented reserved v'.node → v'.parent = v.parent →
      E v.enclosing v'.enclosing → m v'.records = m v.records ∧ E v.scope v'.scope)
    (v v' : Visit) (h : v.node.Commented reserved v'.node) (hp : v'.parent = v.parent)
    (he : E v.enclosing v'.enclosing) : m v'.recorded = m v.recorded := by
  obtain ⟨n, parent, enclosing, depth⟩ := v
  induction n using Node.rec_namedChildren generalizing v' parent enclosing depth with
  | step n ih =>
      obtain ⟨hr, hs⟩ := hv _ _ h hp he
      rw [recorded_eq, recorded_eq, hm, hm, hr]
      congr 1
      apply Interspersed.concat_eq hm h.namedChildren
      · intro c hc c' hcc
        exact ih c hc _ _ _ _ hcc h.kind hs
      · intro c hc
        exact recorded_of_isComment hc

theorem blur_recorded_commented (v v' : Visit) (h : v.node.Commented reserved v'.node)
    (hp : v'.parent = v.parent) : v'.recorded.blur = v.recorded.blur :=
  recorded_commented (E := fun _ _ => True) Trace.blur_append
    (fun _ _ hn hp _ => ⟨(records_commented hn hp).1, trivial⟩) v v' h hp trivial

/-- **What is found decides**: two trees record the same if the same is found in them, where they
stand in the same context. -/
theorem recorded_eq_of_found (v v' : Visit) (h : v.node.Commented reserved v'.node)
    (hp : v'.parent = v.parent) (he : v'.enclosing = v.enclosing)
    (hf : ∀ l, v'.recorded.found l = v.recorded.found l) : v'.recorded = v.recorded := by
  obtain ⟨n, parent, enclosing, depth⟩ := v
  induction n using Node.rec_namedChildren generalizing v' parent enclosing depth with
  | step n ih =>
      obtain ⟨hb, hr⟩ := records_commented h hp
      rw [recorded_eq v', recorded_eq ⟨n, parent, enclosing, depth⟩] at hf ⊢
      -- Both traces begin with as many finds, so what is found splits into node and children.
      obtain ⟨hat, hbelow⟩ := Trace.found_append_inj hb hf
      simp only [found_records] at hat
      rw [hr he hat]
      congr 1
      apply h.namedChildren.concat_eq_of_found _ _ _ hbelow
      · intro c c' hcc
        exact blur_recorded_commented _ _ hcc h.kind
      · intro c hc c' hcc hfound
        exact ih c hc _ _ _ _ hcc h.kind (scope_commented h he (hat .function)) hfound
      · intro c hc
        exact recorded_of_isComment hc

end Visit

namespace Node

theorem found_recursiveTrace (n : Node) (l : LookUp) : n.recursiveTrace.found l = n.found l := by
  rw [recursiveTrace_eq_concat, visits_eq, Trace.found_concat, List.flatMap_map, List.flatMap_map]
  apply List.flatMap_congr
  intro o _
  exact o.visit.found_records l

/-- **Comments change only what is looked up by position.**  Without bounds, a commented tree gives
a trace in which at most the blurred parts differ.  The trace is the same exactly if the same is
found by position in both trees; so it is if, at every node, the comments come behind the children
that are looked up by position. -/
theorem comments_change_only_positional_lookups (n n' : Node)
    (h : n.Commented nothingReserved n') :
    ∃ t t', n.trace .unbounded = .ok t ∧ n'.trace .unbounded = .ok t' ∧ t'.blur = t.blur ∧
      (t' = t ↔ ∀ l, n'.found l = n.found l) ∧ (n.Commented positional n' → t' = t) := by
  refine ⟨_, _, n.trace_unbounded, n'.trace_unbounded, ?_, ⟨?_, ?_⟩, ?_⟩
  · rw [recursiveTrace_eq_recorded, recursiveTrace_eq_recorded]
    exact Visit.blur_recorded_commented _ _ h rfl
  · intro ht l
    rw [← found_recursiveTrace, ← found_recursiveTrace, ht]
  · intro hf
    simp only [← found_recursiveTrace, recursiveTrace_eq_recorded] at hf ⊢
    exact Visit.recorded_eq_of_found _ _ h rfl rfl hf
  · intro hp
    rw [recursiveTrace_eq_recorded, recursiveTrace_eq_recorded]
    exact Visit.recorded_commented (m := id) (E := Eq) (fun _ _ => rfl)
      (fun _ _ hn hp he => ⟨(Visit.records_commented hn hp).2 he.symm hn.foundAt,
        (Visit.scope_commented hn he.symm (hn.foundAt .function)).symm⟩)
      (.root n) (.root n') hp rfl rfl

/-- A comment on the first line. -/
def sampleComment : Node := .mk ⟨"comment", 0, "/* c */", true, none⟩ []

/-- A function that gives a reference, writes through a member and returns a number, with comments
before and behind what is looked up by position at three places. -/
def sampleAround (before behind : List Node) : Node :=
  .mk ⟨"function_definition", 0, "T& f() ...", true, none⟩ [
    .mk ⟨"reference_declarator", 0, "& f()", true, some "declarator"⟩ (
      .mk ⟨"&", 0, "&", false, none⟩ [] :: before ++
      .mk ⟨"function_declarator", 0, "f()", true, none⟩ [
        .mk ⟨"identifier", 0, "f", true, some "declarator"⟩ []] :: behind),
    .mk ⟨"compound_statement", 0, "...", true, some "body"⟩ [
      .mk ⟨"assignment_expression", 1, "p->x = 0", true, none⟩ [
        .mk ⟨"field_expression", 1, "p->x", true, some "left"⟩ (
          .mk ⟨"identifier", 1, "p", true, some "argument"⟩ [] ::
          .mk ⟨"->", 1, "->", false, none⟩ [] :: before ++
          .mk ⟨"field_identifier", 1, "x", true, some "field"⟩ [] :: behind),
        .mk ⟨"number_literal", 1, "0", true, some "right"⟩ []],
      .mk ⟨"return_statement", 2, "return 1;", true, none⟩ (
        .mk ⟨"return", 2, "return", false, none⟩ [] :: before ++
        .mk ⟨"number_literal", 2, "1", true, none⟩ [] :: behind)]]

theorem sampleAround_before :
    (sampleAround [] []).Commented nothingReserved (sampleAround [sampleComment] []) := by
  have hc : sampleComment.IsComment := ⟨rfl, rfl, rfl, rfl⟩
  refine .branch (.branch .leaf (.comment hc (.keep (.branch .leaf .nil) .nil))) (.keep ?_ .nil)
  refine .branch (.branch (.branch .leaf (.keep .leaf ?_)) (.keep .leaf .nil)) (.keep ?_ .nil)
  · exact .comment hc (.keep .leaf .nil)
  · exact .branch .leaf (.comment hc (.keep .leaf .nil))

theorem sampleAround_behind :
    (sampleAround [] []).Commented positional (sampleAround [] [sampleComment]) := by
  have hc : sampleComment.IsComment := ⟨rfl, rfl, rfl, rfl⟩
  have hd : Interspersed (Node.Commented positional) 0 [] [sampleComment] := .comment hc .nil
  refine .branch (.branch .leaf (.keep (.branch .leaf .nil) hd)) (.keep ?_ .nil)
  refine .branch (.branch (.branch .leaf (.keep .leaf ?_)) (.keep .leaf .nil)) (.keep ?_ .nil)
  · exact .keep .leaf hd
  · exact .branch .leaf (.keep .leaf hd)

theorem sampleAround_comments :
    (sampleAround [] []).Commented nothingReserved (sampleAround [] [sampleComment]) ∧
    ∃ t t', (sampleAround [] []).trace .unbounded = .ok t ∧
      (sampleAround [] [sampleComment]).trace .unbounded = .ok t' ∧ t' = t := by
  have h : (sampleAround [] []).Commented nothingReserved (sampleAround [] [sampleComment]) :=
    sampleAround_behind.mono fun _ => Nat.zero_le _
  obtain ⟨t, t', ht, ht', -, -, hp⟩ := comments_change_only_positional_lookups _ _ h
  exact ⟨h, t, t', ht, ht', hp sampleAround_behind⟩

/-- What is recorded of the sample if these are found at the three places. -/
def sampleFound (name member value : String) : Trace where
  flow := [.functionDefinition name "& f()" (some "...") 1]
  steps := [.memberAssign 2 "p->x" "0", .return 3 value]
  returns := [⟨3, value⟩]
  memberWrites := [⟨some "p", some member, "0", "p->x", 2⟩]

/-- **A comment that comes before is found by position**: it is taken for the function, for the
member and for the returned value. -/
theorem comment_found_by_position :
    (sampleAround [] []).Commented nothingReserved (sampleAround [sampleComment] []) ∧
    (sampleAround [] []).trace .unbounded = .ok (sampleFound "f" "x" "1") ∧
    (sampleAround [sampleComment] []).trace .unbounded =
      .ok (sampleFound "/* c */" "/* c */" "/* c */") ∧
    (sampleAround [sampleComment] []).trace .unbounded ≠
      (sampleAround [] []).trace .unbounded := by
  have ht : (sampleAround [] []).trace .unbounded = .ok (sampleFound "f" "x" "1") := by
    rw [trace_unbounded]
    exact congrArg Except.ok (by decide +kernel)
  have ht' : (sampleAround [sampleComment] []).trace .unbounded =
      .ok (sampleFound "/* c */" "/* c */" "/* c */") := by
    rw [trace_unbounded]
    exact congrArg Except.ok (by decide +kernel)
  refine ⟨sampleAround_before, ht, ht', ?_⟩
  rw [ht, ht']
  intro h
  have hr := congrArg Trace.returns (Except.ok.inj h)
  exact absurd hr (by decide)

end Node

end Walkthrough
