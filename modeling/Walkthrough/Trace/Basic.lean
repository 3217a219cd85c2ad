import Walkthrough.LooseInt

/-! # Traces

A trace is what a walkthrough of one source text records: nine sequences of records, each in the
order in which the constructs stand in the source.  Every record carries the line it came from,
and an absent optional text means that the source does not give it.

* The records: `Variable`, `FlowNode`, `Step`, `Update`, `CallFrame`, `ReturnRecord`,
  `DataStructure`, `MemberWrite` and `Allocation`.
* A `Trace` holds a sequence of each.  Traces are combined field by field: `++` appends two,
  `Trace.concat` a whole list of them. -/

namespace Walkthrough

/-- What a declared name is taken to be. -/
inductive Shape where
  /-- a number, or no initializer at all -/
  | int (value : Option LooseInt)
  /-- a pointer with the text of its initializer -/
  | pointer (value : Option String)
  /-- an array: the entries of a braced initializer, or the text of a called one -/
  | array (values : Option (List LooseInt)) (value : Option String)
deriving DecidableEq, Repr

/-- A shape without its values. -/
inductive ShapeName where
  | int
  | pointer
  | array
deriving DecidableEq, Repr

/-- The name of a shape. -/
def Shape.name : Shape → ShapeName
  | int _ => .int
  | pointer _ => .pointer
  | array _ _ => .array

/-- A declared name. -/
structure Variable where
  name : String
  line : Nat
  shape : Shape
deriving DecidableEq, Repr

/-- A plain assignment. -/
structure Update where
  name : String
  value : String
  line : Nat
deriving DecidableEq, Repr

/-- An assignment through a member: the object, the member and the whole left-hand side. -/
structure MemberWrite where
  object : Option String
  member : Option String
  value : String
  target : String
  line : Nat
deriving DecidableEq, Repr

/-- A construct that shapes the flow of control. -/
inductive FlowNode where
  | functionDefinition (name signature : String) (body : Option String) (line : Nat)
  | forLoop (initializer condition update body : Option String) (line : Nat)
  | branch (condition consequence : Option String) (line : Nat)
  | functionCall (name : String) (arguments : Option String) (line : Nat)
deriving DecidableEq, Repr

/-- The line of a flow node. -/
def FlowNode.line : FlowNode → Nat
  | functionDefinition _ _ _ n => n
  | forLoop _ _ _ _ n => n
  | branch _ _ n => n
  | functionCall _ _ n => n

/-- One event of the timeline. -/
inductive Step where
  | declare (line : Nat) (var : String) (value : Option String)
  | assign (line : Nat) (var value : String)
  | memberAssign (line : Nat) (target value : String)
  | loopStart (line : Nat) (condition : Option String)
  | conditionCheck (line : Nat) (condition : Option String)
  | call (line : Nat) (function args : String)
  | return (line : Nat) (value : String)
  | allocate (line : Nat) (type args : Option String)
deriving DecidableEq, Repr

namespace Step

/-- The line of a step. -/
def line : Step → Nat
  | declare n _ _ => n
  | assign n _ _ => n
  | memberAssign n _ _ => n
  | loopStart n _ => n
  | conditionCheck n _ => n
  | call n _ _ => n
  | .return n _ => n
  | allocate n _ _ => n

/-- The word for what a step does. -/
def action : Step → String
  | declare .. => "declare"
  | assign .. => "assign"
  | memberAssign .. => "pointer-assign"
  | loopStart .. => "loop-start"
  | conditionCheck .. => "condition-check"
  | call .. => "call"
  | .return .. => "return"
  | allocate .. => "allocate"

/-- A dash stands for an absent text. -/
def orDash (text : Option String) : String := text.getD "-"

/-- A short summary of a step. -/
def describe : Step → String
  | declare _ var value => "declare " ++ var ++ " = " ++ orDash value
  | assign _ var value => "assign " ++ var ++ " = " ++ value
  | memberAssign _ target value => "pointer-assign " ++ target ++ " = " ++ value
  | loopStart _ condition => "loop-start " ++ orDash condition
  | conditionCheck _ condition => "condition-check " ++ orDash condition
  | call _ function args => "call " ++ function ++ args
  | .return _ value => "return " ++ value
  | allocate _ type args => "allocate " ++ orDash type ++ "(" ++ orDash args ++ ")"

end Step

/-- A call of a function from its own body. -/
structure CallFrame where
  function : String
  args : Option String
  line : Nat
deriving DecidableEq, Repr

/-- A returned value. -/
structure ReturnRecord where
  line : Nat
  value : String
deriving DecidableEq, Repr

/-- The keyword of a data structure. -/
inductive StructureKeyword where
  | structWord
  | classWord
deriving DecidableEq, Repr

/-- A field of a data structure. -/
structure StructField where
  type : Option String
  name : Option String
  isPointer : Bool
deriving DecidableEq, Repr

/-- A declared data structure with its fields. -/
structure DataStructure where
  keyword : StructureKeyword
  name : Option String
  fields : List StructField
  line : Nat
deriving DecidableEq, Repr

/-- An allocation on the heap. -/
structure Allocation where
  type : Option String
  args : Option String
  line : Nat
deriving DecidableEq, Repr

/-- Everything that a walkthrough records. -/
structure Trace where
  declarations : List Variable := []
  flow : List FlowNode := []
  steps : List Step := []
  updates : List Update := []
  callStack : List CallFrame := []
  returns : List ReturnRecord := []
  dataStructures : List DataStructure := []
  memberWrites : List MemberWrite := []
  allocations : List Allocation := []
deriving DecidableEq, Repr

namespace Trace

/-- The trace that records nothing. -/
def empty : Trace := {}

/-- Appends two traces field by field. -/
def append (a b : Trace) : Trace where
  declarations := a.declarations ++ b.declarations
  flow := a.flow ++ b.flow
  steps := a.steps ++ b.steps
  updates := a.updates ++ b.updates
  callStack := a.callStack ++ b.callStack
  returns := a.returns ++ b.returns
  dataStructures := a.dataStructures ++ b.dataStructures
  memberWrites := a.memberWrites ++ b.memberWrites
  allocations := a.allocations ++ b.allocations

instance : Append Trace := ⟨append⟩

/-- Appends the traces of a list, field by field. -/
def concat (ts : List Trace) : Trace where
  declarations := ts.flatMap (·.declarations)
  flow := ts.flatMap (·.flow)
  steps := ts.flatMap (·.steps)
  updates := ts.flatMap (·.updates)
  callStack := ts.flatMap (·.callStack)
  returns := ts.flatMap (·.returns)
  dataStructures := ts.flatMap (·.dataStructures)
  memberWrites := ts.flatMap (·.memberWrites)
  allocations := ts.flatMap (·.allocations)

/-- Is nothing recorded at all? -/
def isEmpty (t : Trace) : Bool :=
  t.declarations.isEmpty && t.flow.isEmpty && t.steps.isEmpty && t.updates.isEmpty &&
    t.callStack.isEmpty && t.returns.isEmpty && t.dataStructures.isEmpty &&
    t.memberWrites.isEmpty && t.allocations.isEmpty

@[simp] theorem concat_nil : concat [] = empty := rfl

@[simp] theorem concat_cons (t : Trace) (ts : List Trace) :
    concat (t :: ts) = t ++ concat ts := rfl

@[simp] theorem empty_append (t : Trace) : empty ++ t = t := rfl

@[simp] theorem append_empty (t : Trace) : t ++ empty = t := by
  show append t empty = t
  simp [append, empty]

theorem append_assoc (a b c : Trace) : a ++ b ++ c = a ++ (b ++ c) := by
  show append (append a b) c = append a (append b c)
  simp [append, List.append_assoc]

theorem concat_append (ts us : List Trace) : concat (ts ++ us) = concat ts ++ concat us := by
  induction ts with
  | nil => rfl
  | cons t ts ih => simp only [List.cons_append, concat_cons, ih, append_assoc]

theorem concat_flatMap {α : Type} (f : α → List Trace) (as : List α) :
    concat (as.flatMap f) = concat (as.map fun a => concat (f a)) := by
  induction as with
  | nil => rfl
  | cons a as ih => rw [List.flatMap_cons, concat_append, ih, List.map_cons, concat_cons]

end Trace

end Walkthrough
