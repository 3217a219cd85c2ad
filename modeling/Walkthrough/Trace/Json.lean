import Walkthrough.Json.Value
import Walkthrough.Trace.Basic

/-! # Traces as JSON

Every record of a trace is an object with its fields in a fixed order.  An absent text is written
as `null` and never left out; where records of one sequence differ in kind, a word says which kind
it is. -/

namespace Walkthrough

/-- A number, or the word for none. -/
def LooseInt.toJson : LooseInt → Json
  | .number n => .int n
  | .nan => .str "NaN"

/-- The fields of a variable that its shape gives. -/
def Shape.fields : Shape → List (String × Json)
  | .int value =>
    [("type", .str "int"), ("value", (value.map LooseInt.toJson).getD .null)]
  | .pointer value => [("type", .str "pointer"), ("value", .optStr value)]
  | .array values value =>
    [("type", .str "array"),
      ("values", (values.map fun vs => .arr (vs.map LooseInt.toJson)).getD .null),
      ("value", .optStr value)]

/-- A variable with its shape among its own fields. -/
def Variable.toJson (v : Variable) : Json :=
  .obj ([("name", .str v.name), ("line", .nat v.line)] ++ v.shape.fields)

/-- A flow node; its type stands first. -/
def FlowNode.toJson : FlowNode → Json
  | .functionDefinition name signature body line =>
    .obj [("type", .str "function-definition"), ("name", .str name),
      ("signature", .str signature), ("body", .optStr body), ("line", .nat line)]
  | .forLoop initializer condition update body line =>
    .obj [("type", .str "for-loop"), ("initializer", .optStr initializer),
      ("condition", .optStr condition), ("update", .optStr update), ("body", .optStr body),
      ("line", .nat line)]
  | .branch condition consequence line =>
    .obj [("type", .str "if"), ("condition", .optStr condition),
      ("consequence", .optStr consequence), ("line", .nat line)]
  | .functionCall name arguments line =>
    .obj [("type", .str "function-call"), ("name", .str name), ("arguments", .optStr arguments),
      ("line", .nat line)]

/-- The fields of a step other than its action and its line. -/
def Step.details : Step → List (String × Json)
  | .declare _ var value => [("var", .str var), ("value", .optStr value)]
  | .assign _ var value => [("var", .str var), ("value", .str value)]
  | .memberAssign _ target value => [("target", .str target), ("value", .str value)]
  | .loopStart _ condition => [("condition", .optStr condition)]
  | .conditionCheck _ condition => [("condition", .optStr condition)]
  | .call _ function args => [("function", .str function), ("args", .str args)]
  | .return _ value => [("value", .str value)]
  | .allocate _ type args => [("type", .optStr type), ("args", .optStr args)]

/-- A step; its action stands first, then its line. -/
def Step.toJson (s : Step) : Json :=
  .obj ([("action", .str s.action), ("line", .nat s.line)] ++ s.details)

/-- A plain assignment. -/
def Update.toJson (u : Update) : Json :=
  .obj [("name", .str u.name), ("value", .str u.value), ("line", .nat u.line)]

/-- An assignment through a member. -/
def MemberWrite.toJson (w : MemberWrite) : Json :=
  .obj [("from", .optStr w.object), ("field", .optStr w.member), ("value", .str w.value),
    ("fullLeft", .str w.target), ("line", .nat w.line)]

/-- A call of a function from its own body. -/
def CallFrame.toJson (f : CallFrame) : Json :=
  .obj [("function", .str f.function), ("args", .optStr f.args), ("line", .nat f.line)]

/-- A returned value. -/
def ReturnRecord.toJson (r : ReturnRecord) : Json :=
  .obj [("line", .nat r.line), ("value", .str r.value)]

/-- The keyword as it is written in the source. -/
def StructureKeyword.word : StructureKeyword → String
  | .structWord => "struct"
  | .classWord => "class"

/-- A field of a data structure. -/
def StructField.toJson (f : StructField) : Json :=
  .obj [("type", .optStr f.type), ("name", .optStr f.name), ("isPointer", .bool f.isPointer)]

/-- A data structure. -/
def DataStructure.toJson (d : DataStructure) : Json :=
  .obj [("type", .str d.keyword.word), ("name", .optStr d.name),
    ("fields", .arr (d.fields.map StructField.toJson)), ("line", .nat d.line)]

/-- An allocation. -/
def Allocation.toJson (a : Allocation) : Json :=
  .obj [("typeName", .optStr a.type), ("args", .optStr a.args), ("line", .nat a.line)]

/-- A trace: its nine sequences. -/
def Trace.toJson (t : Trace) : Json :=
  .obj [("variables", .arr (t.declarations.map Variable.toJson)),
    ("flow", .arr (t.flow.map FlowNode.toJson)),
    ("steps", .arr (t.steps.map Step.toJson)),
    ("variableUpdates", .arr (t.updates.map Update.toJson)),
    ("callStack", .arr (t.callStack.map CallFrame.toJson)),
    ("returns", .arr (t.returns.map ReturnRecord.toJson)),
    ("dataStructures", .arr (t.dataStructures.map DataStructure.toJson)),
    ("pointerAssignments", .arr (t.memberWrites.map MemberWrite.toJson)),
    ("allocations", .arr (t.allocations.map Allocation.toJson))]

end Walkthrough
