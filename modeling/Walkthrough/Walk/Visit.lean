import Walkthrough.Clue
import Walkthrough.Trace.Basic
import Walkthrough.Tree.Node

/-! # Visits

A visit is a node together with what the way to it tells: the kind of its parent, the name of the
innermost function around it, and its depth.

* `Visit.records` is the trace of this node alone, without its children; most of them are the same
  for visits that are `Visit.Alike`;
* `Visit.scope` is the innermost function for its children: a function definition sets it, also to
  none if it has no declarator, and every other node hands on what it was given;
* `Visit.next` are the visits of its named children, from first to last. -/

namespace Walkthrough

/-- The declarator that a wrapping declarator holds: the child under `declarator`, or else the
first named child. -/
def Node.inner? (n : Node) : Option Node := (n.byField? "declarator").or n.namedChildren.head?

theorem Node.size_lt_of_inner? {n m : Node} (h : n.inner? = some m) : m.size < n.size := by
  unfold inner? at h
  rcases Option.or_eq_some_iff.mp h with h | ⟨_, h⟩
  · exact size_lt_of_byField? h
  · exact size_lt_of_mem_namedChildren (List.mem_of_mem_head? h)

/-- The name that a declarator declares: pointer and reference declarators are looked through, a
function declarator gives the text of its own declarator, and anything else its whole text. -/
def functionName (n : Node) : String :=
  match n.kind with
  | .functionDeclarator => (n.fieldText? "declarator").getD n.text
  | .pointerDeclarator | .referenceDeclarator =>
    match _h : n.inner? with
    | some inner => functionName inner
    | none => n.text
  | _ => n.text
termination_by n.size
decreasing_by exact Node.size_lt_of_inner? _h

theorem functionName_of_functionDeclarator {n : Node} (h : n.kind = .functionDeclarator) :
    functionName n = (n.fieldText? "declarator").getD n.text := by
  rw [functionName, h]

/-- A wrapping declarator declares what the declarator inside it does. -/
theorem functionName_of_isWrapping {n : Node} (h : n.kind.isWrapping = true) :
    functionName n = (n.inner?.map functionName).getD n.text := by
  rw [functionName]
  cases hk : n.kind with
  | pointerDeclarator => cases hi : n.inner? <;> simp
  | referenceDeclarator => cases hi : n.inner? <;> simp
  | _ => simp [hk, Kind.isWrapping] at h

theorem functionName_of_other {n : Node} (hf : n.kind ≠ .functionDeclarator)
    (hw : n.kind.isWrapping = false) : functionName n = n.text := by
  rw [functionName]
  cases hk : n.kind with
  | functionDeclarator => exact absurd hk hf
  | pointerDeclarator => simp [hk, Kind.isWrapping] at hw
  | referenceDeclarator => simp [hk, Kind.isWrapping] at hw
  | _ => rfl

/-- Two declarators declare the same name if they are alike and the declarators inside them do. -/
theorem functionName_congr {n n' : Node} (hk : n'.kind = n.kind) (ht : n'.text = n.text)
    (hd : n'.fieldText? "declarator" = n.fieldText? "declarator")
    (hi : n.kind.isWrapping = true →
      n'.inner?.map functionName = n.inner?.map functionName) :
    functionName n' = functionName n := by
  by_cases hw : n.kind.isWrapping = true
  · rw [functionName_of_isWrapping hw, functionName_of_isWrapping (hk.symm ▸ hw), hi hw, ht]
  · by_cases hf : n.kind = .functionDeclarator
    · rw [functionName_of_functionDeclarator hf,
        functionName_of_functionDeclarator (hk.trans hf), hd, ht]
    · have hw := Bool.eq_false_iff.mpr hw
      rw [functionName_of_other hf hw, functionName_of_other (hk.symm ▸ hf) (hk.symm ▸ hw), ht]

/-- The shape of a declared name: a pointer if the clues say so, else by its initializer an array
in braces, an array that is constructed by a call, or an integer. -/
def declaredShape (name : String) (parent : Kind) (value : Option String) : Shape :=
  if Clue.declaresPointer name parent then .pointer value
  else
    match value with
    | none => .int none
    | some v =>
      if Clue.isBraced v then .array (some (LooseInt.readList v)) none
      else if Clue.isCall v then .array none (some v)
      else .int (some (LooseInt.read v))

/-- The fields of a data structure: one for each field declaration in its body. -/
def structFields (n : Node) : List StructField :=
  match n.byField? "body" with
  | none => []
  | some body =>
    (body.namedChildren.filter (·.kind == .fieldDeclaration)).map fun declaration =>
      let name := declaration.fieldText? "declarator"
      { type := declaration.fieldText? "type", name := name
        isPointer := Clue.fieldIsPointer name }

/-- A node on the way of a walk. -/
structure Visit where
  node : Node
  parent : Kind
  enclosing : Option String
  depth : Nat

namespace Visit

/-- The walk begins at the root, inside no function. -/
def root (n : Node) : Visit := ⟨n, .other, none, 0⟩

/-- A declaration records a variable and a step. -/
def declaration (v : Visit) : Trace :=
  match v.node.fieldText? "declarator" with
  | none => {}
  | some name =>
    let value := v.node.fieldText? "value"
    { declarations := [⟨name, v.node.line, declaredShape name v.parent value⟩]
      steps := [.declare v.node.line name value] }

/-- An assignment with both sides records a step, and a write through a member or an update. -/
def assignment (v : Visit) : Trace :=
  match v.node.byField? "left", v.node.byField? "right" with
  | some left, some right =>
    let line := v.node.line
    if Clue.targetsMember left.kind left.text then
      { memberWrites :=
          [{ object := left.namedChildren[0]?.map (·.text)
             member := left.namedChildren[1]?.map (·.text)
             value := right.text, target := left.text, line := line }]
        steps := [.memberAssign line left.text right.text] }
    else
      { updates := [⟨left.text, right.text, line⟩]
        steps := [.assign line left.text right.text] }
  | _, _ => {}

/-- A function definition with a declarator records a flow node. -/
def definition (v : Visit) : Trace :=
  match v.node.byField? "declarator" with
  | none => {}
  | some declarator =>
    { flow := [.functionDefinition (functionName declarator) declarator.text
        (v.node.fieldText? "body") v.node.line] }

/-- A loop records a flow node and a step. -/
def forLoop (v : Visit) : Trace :=
  let condition := v.node.fieldText? "condition"
  { flow := [.forLoop (v.node.fieldText? "initializer") condition (v.node.fieldText? "update")
      (v.node.fieldText? "body") v.node.line]
    steps := [.loopStart v.node.line condition] }

/-- A condition records a flow node and a step. -/
def branch (v : Visit) : Trace :=
  let condition := v.node.fieldText? "condition"
  { flow := [.branch condition (v.node.fieldText? "consequence") v.node.line]
    steps := [.conditionCheck v.node.line condition] }

/-- The name of what a call calls: the text of its first child. -/
def callee (n : Node) : String := ((n.child? 0).map (·.text)).getD "unknown"

/-- A call records a flow node and a step, and a frame if the innermost function around it has the
name of what it calls. -/
def call (v : Visit) : Trace :=
  let name := callee v.node
  let arguments := v.node.fieldText? "arguments"
  { flow := [.functionCall name arguments v.node.line]
    steps := [.call v.node.line name (arguments.getD "")]
    callStack := if v.enclosing = some name then [⟨name, arguments, v.node.line⟩] else [] }

/-- The text of the first named child is what a return gives back. -/
def returned (n : Node) : String := (n.namedChildren.head?.map (·.text)).getD "void"

/-- A return records a step and its value. -/
def returnValue (v : Visit) : Trace :=
  { steps := [.return v.node.line (returned v.node)]
    returns := [⟨v.node.line, returned v.node⟩] }

/-- A data structure records its name and its fields. -/
def dataStructure (v : Visit) (keyword : StructureKeyword) : Trace :=
  { dataStructures :=
      [⟨keyword, v.node.fieldText? "name", structFields v.node, v.node.line⟩] }

/-- An allocation records its type, its arguments without their delimiters, and a step. -/
def allocation (v : Visit) : Trace :=
  let type := v.node.fieldText? "type"
  let args := (v.node.fieldText? "arguments").map Clue.stripDelimiters
  { allocations := [⟨type, args, v.node.line⟩]
    steps := [.allocate v.node.line type args] }

/-- What the node itself contributes to the trace. -/
def records (v : Visit) : Trace :=
  match v.node.kind with
  | .initDeclarator => v.declaration
  | .assignmentExpression => v.assignment
  | .functionDefinition => v.definition
  | .forStatement => v.forLoop
  | .ifStatement => v.branch
  | .callExpression => v.call
  | .returnStatement => v.returnValue
  | .structSpecifier => v.dataStructure .structWord
  | .classSpecifier => v.dataStructure .classWord
  | .newExpression => v.allocation
  | _ => {}

/-- What most records are made of: two nodes agree in their kind, their line and the texts of their
fields. -/
structure Alike (v v' : Visit) : Prop where
  kind : v'.node.kind = v.node.kind
  line : v'.node.line = v.node.line
  fieldText? : ∀ field, v'.node.fieldText? field = v.node.fieldText? field

namespace Alike

variable {v v' : Visit}

theorem declaration_eq (h : v.Alike v') (hp : v'.parent = v.parent) :
    v'.declaration = v.declaration := by
  unfold declaration
  rw [h.fieldText?, h.fieldText?, h.line, hp]

theorem forLoop_eq (h : v.Alike v') : v'.forLoop = v.forLoop := by
  unfold forLoop
  simp only [h.fieldText?, h.line]

theorem branch_eq (h : v.Alike v') : v'.branch = v.branch := by
  unfold branch
  simp only [h.fieldText?, h.line]

theorem call_eq (h : v.Alike v') (hcallee : callee v'.node = callee v.node)
    (he : v'.enclosing = v.enclosing) : v'.call = v.call := by
  unfold call
  simp only [h.fieldText?, h.line, hcallee, he]

theorem returnValue_eq (h : v.Alike v') (hreturned : returned v'.node = returned v.node) :
    v'.returnValue = v.returnValue := by
  unfold returnValue
  rw [h.line, hreturned]

theorem dataStructure_eq (h : v.Alike v') (hfields : structFields v'.node = structFields v.node)
    (keyword : StructureKeyword) : v'.dataStructure keyword = v.dataStructure keyword := by
  unfold dataStructure
  rw [h.fieldText?, h.line, hfields]

theorem allocation_eq (h : v.Alike v') : v'.allocation = v.allocation := by
  unfold allocation
  simp only [h.fieldText?, h.line]

end Alike

/-- The innermost function around the children of the node. -/
def scope (v : Visit) : Option String :=
  match v.node.kind with
  | .functionDefinition => (v.node.byField? "declarator").map functionName
  | _ => v.enclosing

/-- The visit of a child. -/
def child (v : Visit) (n : Node) : Visit := ⟨n, v.node.kind, v.scope, v.depth + 1⟩

/-- The visits of the named children, from first to last. -/
def next (v : Visit) : List Visit := v.node.namedChildren.map v.child

/-- The number of nodes at and below a visit. -/
def size (v : Visit) : Nat := v.node.size

/-- The number of nodes that a stack of visits still leads to. -/
def pending : List Visit → Nat
  | [] => 0
  | v :: vs => v.size + pending vs

@[simp] theorem pending_append (us vs : List Visit) :
    pending (us ++ vs) = pending us + pending vs := by
  induction us with
  | nil => simp [pending]
  | cons u us ih => simp [pending, ih, Nat.add_assoc]

theorem pending_map_child (v : Visit) (ns : List Node) :
    pending (ns.map v.child) = Node.sizeAll ns := by
  induction ns with
  | nil => rfl
  | cons n ns ih => simp [pending, Node.sizeAll, ih, size, child]

theorem pending_next_lt (v : Visit) : pending v.next < v.size := by
  rw [next, pending_map_child]
  exact Node.sizeAll_namedChildren_lt v.node

end Visit

end Walkthrough
