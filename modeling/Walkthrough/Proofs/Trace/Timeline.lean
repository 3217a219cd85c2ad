import Mathlib.Data.List.Forall2
import Walkthrough.Proofs.Walk.Recursion

/-! # The timeline and the tables

A trace tells most constructs twice: as a step of the timeline and as a record of a table.  The two
sides say the same, and in the same order.

* `Shape.Fits` says what a declared name is taken to be, given the text of its initializer.
* `Trace.InStep` relates the steps of each kind to the table that they belong to.
* The relation holds of what one visit records (`Visit.records_inStep`), and joining traces keeps it
  (`Trace.InStep.append`), so it holds of every trace that a walk ends with, whatever the bounds
  (`Node.inStep_of_trace_eq_ok`). -/

namespace Walkthrough

/-- The shape of a declared name agrees with the text of its initializer. -/
def Shape.Fits (value : Option String) : Shape → Prop
  | .pointer held => held = value
  | .array (some values) held =>
      held = none ∧ ∃ v, value = some v ∧ v.toList.head? = some '\x7b' ∧
        values = LooseInt.readList v
  | .array none held =>
      held = value ∧ ∃ v, value = some v ∧ '(' ∈ v.toList ∧ v.toList.head? ≠ some '\x7b'
  | .int held => held = value.map LooseInt.read

namespace Step

/-- A step declares a variable: same name and line, a shape that fits, and a pointer if the name
carries a star. -/
def Declares : Step → Variable → Prop
  | declare line var value, v =>
      v.name = var ∧ v.line = line ∧ v.shape.Fits value ∧
        ('*' ∈ v.name.toList → v.shape.name = .pointer)
  | _, _ => False

/-- Is the step a declaration? -/
def isDeclare : Step → Bool
  | declare .. => true
  | _ => false

/-- The update that an assignment step tells. -/
def update? : Step → Option Update
  | assign line var value => some ⟨var, value, line⟩
  | _ => none

/-- The left-hand side, value and line that a step through a member tells. -/
def memberWrite? : Step → Option (String × String × Nat)
  | memberAssign line target value => some (target, value, line)
  | _ => none

/-- The returned value that a step tells. -/
def returned? : Step → Option ReturnRecord
  | .return line value => some ⟨line, value⟩
  | _ => none

/-- The allocation that a step tells. -/
def allocation? : Step → Option Allocation
  | allocate line type args => some ⟨type, args, line⟩
  | _ => none

/-- Is the step about the flow of control: a loop, a condition or a call? -/
def isFlow : Step → Bool
  | loopStart .. | conditionCheck .. | call .. => true
  | _ => false

end Step

namespace FlowNode

/-- The step that a flow node other than a function definition calls for; a call without arguments
has empty ones in its step. -/
def step? : FlowNode → Option Step
  | functionDefinition .. => none
  | forLoop _ condition _ _ line => some (.loopStart line condition)
  | branch condition _ line => some (.conditionCheck line condition)
  | functionCall name arguments line => some (.call line name (arguments.getD ""))

/-- The frame that a call would leave on the call stack. -/
def frame? : FlowNode → Option CallFrame
  | functionCall name arguments line => some ⟨name, arguments, line⟩
  | _ => none

end FlowNode

namespace Trace

/-- The steps and the tables of a trace tell the same, in the same order. -/
structure InStep (t : Trace) : Prop where
  declarations : List.Forall₂ Step.Declares (t.steps.filter Step.isDeclare) t.declarations
  updates : t.steps.filterMap Step.update? = t.updates
  memberWrites :
    t.steps.filterMap Step.memberWrite? = t.memberWrites.map fun w => (w.target, w.value, w.line)
  returns : t.steps.filterMap Step.returned? = t.returns
  allocations : t.steps.filterMap Step.allocation? = t.allocations
  flow : t.steps.filter Step.isFlow = t.flow.filterMap FlowNode.step?
  callStack : t.callStack.Sublist (t.flow.filterMap FlowNode.frame?)

theorem InStep.empty : InStep empty := by
  constructor <;> simp [Trace.empty]

theorem InStep.append {a b : Trace} (ha : a.InStep) (hb : b.InStep) : (a ++ b).InStep where
  declarations := by
    show List.Forall₂ _ ((a.steps ++ b.steps).filter _) (a.declarations ++ b.declarations)
    rw [List.filter_append]
    exact List.rel_append ha.declarations hb.declarations
  updates := by
    show (a.steps ++ b.steps).filterMap _ = a.updates ++ b.updates
    rw [List.filterMap_append, ha.updates, hb.updates]
  memberWrites := by
    show (a.steps ++ b.steps).filterMap _ = (a.memberWrites ++ b.memberWrites).map _
    rw [List.filterMap_append, List.map_append, ha.memberWrites, hb.memberWrites]
  returns := by
    show (a.steps ++ b.steps).filterMap _ = a.returns ++ b.returns
    rw [List.filterMap_append, ha.returns, hb.returns]
  allocations := by
    show (a.steps ++ b.steps).filterMap _ = a.allocations ++ b.allocations
    rw [List.filterMap_append, ha.allocations, hb.allocations]
  flow := by
    show (a.steps ++ b.steps).filter _ = (a.flow ++ b.flow).filterMap _
    rw [List.filter_append, List.filterMap_append, ha.flow, hb.flow]
  callStack := by
    show (a.callStack ++ b.callStack).Sublist ((a.flow ++ b.flow).filterMap _)
    rw [List.filterMap_append]
    exact ha.callStack.append hb.callStack

theorem InStep.concat {ts : List Trace} (h : ∀ t ∈ ts, t.InStep) : (Trace.concat ts).InStep := by
  induction ts with
  | nil => exact .empty
  | cons t ts ih =>
      rw [concat_cons]
      exact .append (h t List.mem_cons_self) (ih fun u hu => h u (List.mem_cons_of_mem t hu))

end Trace

/-! ### What one visit records -/

theorem declaredShape_fits (name : String) (parent : Kind) (value : Option String) :
    (declaredShape name parent value).Fits value := by
  unfold declaredShape
  split
  · rfl
  · cases value with
    | none => rfl
    | some v =>
        have hb : Clue.isBraced v = true ↔ v.toList.head? = some '\x7b' := beq_iff_eq
        have hc : Clue.isCall v = true ↔ '(' ∈ v.toList := List.contains_iff_mem
        simp only
        split
        · rename_i h
          exact ⟨rfl, v, rfl, hb.mp h, rfl⟩
        · rename_i h
          split
          · rename_i h'
            exact ⟨rfl, v, rfl, hc.mp h', fun hv => h (hb.mpr hv)⟩
          · rfl

theorem declaredShape_of_star {name : String} (h : '*' ∈ name.toList) (parent : Kind)
    (value : Option String) : declaredShape name parent value = .pointer value := by
  have hs : Text.holdsChar name '*' = true := List.contains_iff_mem.mpr h
  unfold declaredShape Clue.declaresPointer
  rw [hs, Bool.true_or, if_pos rfl]

namespace Visit

variable (v : Visit)

theorem declaration_inStep : v.declaration.InStep := by
  unfold declaration
  cases v.node.fieldText? "declarator" with
  | none => exact .empty
  | some name =>
      refine ⟨.cons ⟨rfl, rfl, declaredShape_fits _ _ _, fun h => ?_⟩ .nil, rfl, rfl, rfl, rfl,
        rfl, List.nil_sublist _⟩
      rw [declaredShape_of_star h]
      rfl

theorem assignment_inStep : v.assignment.InStep := by
  unfold assignment
  split
  · simp only
    split
    · exact ⟨.nil, rfl, rfl, rfl, rfl, rfl, List.nil_sublist _⟩
    · exact ⟨.nil, rfl, rfl, rfl, rfl, rfl, List.nil_sublist _⟩
  · exact .empty

theorem definition_inStep : v.definition.InStep := by
  unfold definition
  split
  · exact .empty
  · exact ⟨.nil, rfl, rfl, rfl, rfl, rfl, List.nil_sublist _⟩

theorem forLoop_inStep : v.forLoop.InStep :=
  ⟨.nil, rfl, rfl, rfl, rfl, rfl, List.nil_sublist _⟩

theorem branch_inStep : v.branch.InStep :=
  ⟨.nil, rfl, rfl, rfl, rfl, rfl, List.nil_sublist _⟩

/-- A call is the one construct that is told by three sides. -/
theorem call_inStep : v.call.InStep := by
  refine ⟨.nil, rfl, rfl, rfl, rfl, rfl, ?_⟩
  show List.Sublist (if _ then [_] else []) [_]
  split
  · exact List.Sublist.refl _
  · exact List.nil_sublist _

theorem returnValue_inStep : v.returnValue.InStep :=
  ⟨.nil, rfl, rfl, rfl, rfl, rfl, List.nil_sublist _⟩

theorem dataStructure_inStep (keyword : StructureKeyword) : (v.dataStructure keyword).InStep :=
  ⟨.nil, rfl, rfl, rfl, rfl, rfl, List.nil_sublist _⟩

theorem allocation_inStep : v.allocation.InStep :=
  ⟨.nil, rfl, rfl, rfl, rfl, rfl, List.nil_sublist _⟩

/-- What a node contributes is in step, whatever its kind and whatever fields it lacks. -/
theorem records_inStep : v.records.InStep := by
  unfold records
  split
  · exact v.declaration_inStep
  · exact v.assignment_inStep
  · exact v.definition_inStep
  · exact v.forLoop_inStep
  · exact v.branch_inStep
  · exact v.call_inStep
  · exact v.returnValue_inStep
  · exact v.dataStructure_inStep _
  · exact v.dataStructure_inStep _
  · exact v.allocation_inStep
  · exact .empty

end Visit

namespace Node

theorem recursiveTrace_inStep (n : Node) : n.recursiveTrace.InStep := by
  rw [recursiveTrace_eq_concat]
  apply Trace.InStep.concat
  intro t ht
  obtain ⟨v, _, rfl⟩ := List.mem_map.mp ht
  exact v.records_inStep

/-- A function that declares a pointer, writes through it and returns a call of itself. -/
def sampleTree : Node :=
  .mk ⟨"function_definition", 0, "T *f(int n) ...", true, none⟩ [
    .mk ⟨"pointer_declarator", 0, "*f(int n)", true, some "declarator"⟩ [
      .mk ⟨"*", 0, "*", false, none⟩ [],
      .mk ⟨"function_declarator", 0, "f(int n)", true, some "declarator"⟩ [
        .mk ⟨"identifier", 0, "f", true, some "declarator"⟩ []]],
    .mk ⟨"compound_statement", 0, "...", true, some "body"⟩ [
      .mk ⟨"init_declarator", 1, "*p = new T(1)", true, none⟩ [
        .mk ⟨"pointer_declarator", 1, "*p", true, some "declarator"⟩ [],
        .mk ⟨"new_expression", 1, "new T(1)", true, some "value"⟩ [
          .mk ⟨"type_identifier", 1, "T", true, some "type"⟩ [],
          .mk ⟨"argument_list", 1, "(1)", true, some "arguments"⟩ []]],
      .mk ⟨"assignment_expression", 2, "p->x = 0", true, none⟩ [
        .mk ⟨"field_expression", 2, "p->x", true, some "left"⟩ [
          .mk ⟨"identifier", 2, "p", true, some "argument"⟩ [],
          .mk ⟨"->", 2, "->", false, none⟩ [],
          .mk ⟨"field_identifier", 2, "x", true, some "field"⟩ []],
        .mk ⟨"number_literal", 2, "0", true, some "right"⟩ []],
      .mk ⟨"return_statement", 3, "return f(n);", true, none⟩ [
        .mk ⟨"call_expression", 3, "f(n)", true, none⟩ [
          .mk ⟨"identifier", 3, "f", true, some "function"⟩ [],
          .mk ⟨"argument_list", 3, "(n)", true, some "arguments"⟩ []]]]]

/-- What is recorded of the sample. -/
def sampleTrace : Trace where
  declarations := [⟨"*p", 2, .pointer (some "new T(1)")⟩]
  flow := [.functionDefinition "f" "*f(int n)" (some "...") 1, .functionCall "f" (some "(n)") 4]
  steps := [.declare 2 "*p" (some "new T(1)"), .allocate 2 (some "T") (some "1"),
    .memberAssign 3 "p->x" "0", .return 4 "f(n)", .call 4 "f" "(n)"]
  callStack := [⟨"f", some "(n)", 4⟩]
  returns := [⟨4, "f(n)"⟩]
  memberWrites := [⟨some "p", some "x", "0", "p->x", 3⟩]
  allocations := [⟨some "T", some "1", 2⟩]

/-- **The timeline and the tables never drift apart**: the trace of every walk that succeeds is in
step. -/
theorem inStep_of_trace_eq_ok {n : Node} {limits : Limits} {t : Trace}
    (h : n.trace limits = .ok t) : t.InStep := by
  rw [eq_recursiveTrace_of_trace_eq_ok h]
  exact n.recursiveTrace_inStep

/-- The bounds that just admit the sample. -/
theorem sampleTree_inStep :
    sampleTree.trace ⟨some 4, some 19⟩ = .ok sampleTrace ∧ sampleTrace.InStep := by
  have h : sampleTree.trace ⟨some 4, some 19⟩ = .ok sampleTrace := by
    rw [trace_eq_ok_of_firstBroken?_eq_none (by decide +kernel)]
    exact congrArg Except.ok (by decide +kernel)
  exact ⟨h, inStep_of_trace_eq_ok h⟩

end Node

end Walkthrough
