import Walkthrough.Trace.Json

/-! # Traces read back from JSON

Every record of a trace is found again in the value that it is written as: its fields by their keys,
and what kind of record it is by the word for the kind.

* `Json.get?` reads the field of an object; `Json.text?`, `Json.optText?`, `Json.natural?`,
  `Json.flag?`, `Json.items?` and `Json.orNull?` read values.
* `Trace.ofJson?` reads a trace; `Trace.ofJson?_toJson`: it gives back the trace that was written,
  so different traces are written differently (`Trace.toJson_injective`). -/

namespace Walkthrough

namespace Json

/-! ### Reading values -/

/-- A text. -/
def text? : Json → Option String
  | str s => some s
  | _ => none

/-- A text, or `null` for none. -/
def optText? : Json → Option (Option String)
  | null => some none
  | str s => some (some s)
  | _ => none

/-- A natural number. -/
def natural? : Json → Option Nat
  | int (.ofNat n) => some n
  | _ => none

/-- A truth value. -/
def flag? : Json → Option Bool
  | bool b => some b
  | _ => none

section

variable {α : Type} (read : Json → Option α)

/-- A list of values that are all read in one way. -/
def items? : Json → Option (List α)
  | arr items => items.mapM read
  | _ => none

/-- A value, or `null` for none. -/
def orNull? : Json → Option (Option α)
  | null => some none
  | j => (read j).map some

/-- The value under a key. -/
def get? (j : Json) (key : String) : Option α := (j.field? key).bind read

end

@[simp] theorem text?_str (s : String) : (str s).text? = some s := rfl

@[simp] theorem optText?_optStr (t : Option String) : (optStr t).optText? = some t := by
  cases t <;> rfl

@[simp] theorem natural?_nat (n : Nat) : (nat n).natural? = some n := rfl

@[simp] theorem flag?_bool (b : Bool) : (bool b).flag? = some b := rfl

section

variable {α : Type} {read : Json → Option α} {write : α → Json}

theorem items?_arr_map (h : ∀ a, read (write a) = some a) (as : List α) :
    items? read (arr (as.map write)) = some as := by
  show (as.map write).mapM read = some as
  induction as with
  | nil => rfl
  | cons a as ih =>
      rw [List.map_cons, List.mapM_cons, h a, ih]
      rfl

theorem orNull?_getD (h : ∀ a, read (write a) = some a) (hnull : read null = none)
    (o : Option α) : orNull? read ((o.map write).getD null) = some o := by
  cases o with
  | none => rfl
  | some a =>
      have hne : write a ≠ null := by
        intro heq
        have ha := h a
        rw [heq, hnull] at ha
        cases ha
      show orNull? read (write a) = some (some a)
      unfold orNull?
      split
      · contradiction
      · rw [h a, Option.map_some]

@[simp] theorem get?_cons_self (key : String) (value : Json) (fields : List (String × Json)) :
    get? read (obj ((key, value) :: fields)) key = read value := by
  simp [get?, field?]

theorem get?_cons_of_ne {key k : String} (h : k ≠ key) (value : Json)
    (fields : List (String × Json)) :
    get? read (obj ((k, value) :: fields)) key = get? read (obj fields) key := by
  simp [get?, field?, h]

end

end Json

open Json

/-! ### Reading records -/

/-- Reads a number, or the word for none. -/
def LooseInt.ofJson? : Json → Option LooseInt
  | .int n => some (.number n)
  | .str s => if s = "NaN" then some .nan else none
  | _ => none

/-- Reads the shape of a variable. -/
def Shape.ofJson? (j : Json) : Option Shape := do
  let type ← j.get? text? "type"
  if type = "int" then
    return .int (← j.get? (orNull? LooseInt.ofJson?) "value")
  else if type = "pointer" then
    return .pointer (← j.get? optText? "value")
  else if type = "array" then
    return .array (← j.get? (orNull? (items? LooseInt.ofJson?)) "values")
      (← j.get? optText? "value")
  else none

/-- Reads a variable. -/
def Variable.ofJson? (j : Json) : Option Variable := do
  return ⟨← j.get? text? "name", ← j.get? natural? "line", ← Shape.ofJson? j⟩

/-- Reads a flow node. -/
def FlowNode.ofJson? (j : Json) : Option FlowNode := do
  let line ← j.get? natural? "line"
  let type ← j.get? text? "type"
  if type = "function-definition" then
    return .functionDefinition (← j.get? text? "name") (← j.get? text? "signature")
      (← j.get? optText? "body") line
  else if type = "for-loop" then
    return .forLoop (← j.get? optText? "initializer") (← j.get? optText? "condition")
      (← j.get? optText? "update") (← j.get? optText? "body") line
  else if type = "if" then
    return .branch (← j.get? optText? "condition") (← j.get? optText? "consequence") line
  else if type = "function-call" then
    return .functionCall (← j.get? text? "name") (← j.get? optText? "arguments") line
  else none

/-- Reads a step. -/
def Step.ofJson? (j : Json) : Option Step := do
  let line ← j.get? natural? "line"
  let action ← j.get? text? "action"
  if action = "declare" then
    return .declare line (← j.get? text? "var") (← j.get? optText? "value")
  else if action = "assign" then
    return .assign line (← j.get? text? "var") (← j.get? text? "value")
  else if action = "pointer-assign" then
    return .memberAssign line (← j.get? text? "target") (← j.get? text? "value")
  else if action = "loop-start" then
    return .loopStart line (← j.get? optText? "condition")
  else if action = "condition-check" then
    return .conditionCheck line (← j.get? optText? "condition")
  else if action = "call" then
    return .call line (← j.get? text? "function") (← j.get? text? "args")
  else if action = "return" then
    return .return line (← j.get? text? "value")
  else if action = "allocate" then
    return .allocate line (← j.get? optText? "type") (← j.get? optText? "args")
  else none

/-- Reads a plain assignment. -/
def Update.ofJson? (j : Json) : Option Update := do
  return ⟨← j.get? text? "name", ← j.get? text? "value", ← j.get? natural? "line"⟩

/-- Reads an assignment through a member. -/
def MemberWrite.ofJson? (j : Json) : Option MemberWrite := do
  return ⟨← j.get? optText? "from", ← j.get? optText? "field", ← j.get? text? "value",
    ← j.get? text? "fullLeft", ← j.get? natural? "line"⟩

/-- Reads a call of a function from its own body. -/
def CallFrame.ofJson? (j : Json) : Option CallFrame := do
  return ⟨← j.get? text? "function", ← j.get? optText? "args", ← j.get? natural? "line"⟩

/-- Reads a returned value. -/
def ReturnRecord.ofJson? (j : Json) : Option ReturnRecord := do
  return ⟨← j.get? natural? "line", ← j.get? text? "value"⟩

/-- The keyword that is written as a word. -/
def StructureKeyword.ofWord? (word : String) : Option StructureKeyword :=
  if word = "struct" then some .structWord
  else if word = "class" then some .classWord
  else none

/-- Reads a field of a data structure. -/
def StructField.ofJson? (j : Json) : Option StructField := do
  return ⟨← j.get? optText? "type", ← j.get? optText? "name", ← j.get? flag? "isPointer"⟩

/-- Reads a data structure. -/
def DataStructure.ofJson? (j : Json) : Option DataStructure := do
  return ⟨← StructureKeyword.ofWord? (← j.get? text? "type"), ← j.get? optText? "name",
    ← j.get? (items? StructField.ofJson?) "fields", ← j.get? natural? "line"⟩

/-- Reads an allocation. -/
def Allocation.ofJson? (j : Json) : Option Allocation := do
  return ⟨← j.get? optText? "typeName", ← j.get? optText? "args", ← j.get? natural? "line"⟩

/-- Reads a trace. -/
def Trace.ofJson? (j : Json) : Option Trace := do
  return {
    declarations := ← j.get? (items? Variable.ofJson?) "variables"
    flow := ← j.get? (items? FlowNode.ofJson?) "flow"
    steps := ← j.get? (items? Step.ofJson?) "steps"
    updates := ← j.get? (items? Update.ofJson?) "variableUpdates"
    callStack := ← j.get? (items? CallFrame.ofJson?) "callStack"
    returns := ← j.get? (items? ReturnRecord.ofJson?) "returns"
    dataStructures := ← j.get? (items? DataStructure.ofJson?) "dataStructures"
    memberWrites := ← j.get? (items? MemberWrite.ofJson?) "pointerAssignments"
    allocations := ← j.get? (items? Allocation.ofJson?) "allocations" }

/-! ### What is written is read back -/

theorem LooseInt.ofJson?_toJson (n : LooseInt) : ofJson? n.toJson = some n := by
  cases n <;> rfl

theorem Shape.ofJson?_fields (name : String) (line : Nat) (shape : Shape) :
    ofJson? (.obj ([("name", .str name), ("line", .nat line)] ++ shape.fields)) = some shape := by
  cases shape with
  | int value =>
      have hvalue := orNull?_getD LooseInt.ofJson?_toJson rfl value
      simp [ofJson?, fields, get?_cons_of_ne, hvalue]
  | pointer value => simp [ofJson?, fields, get?_cons_of_ne]
  | array values value =>
      have hvalues := orNull?_getD (items?_arr_map LooseInt.ofJson?_toJson) rfl values
      simp [ofJson?, fields, get?_cons_of_ne, hvalues]

theorem Variable.ofJson?_toJson (v : Variable) : ofJson? v.toJson = some v := by
  have hshape := Shape.ofJson?_fields v.name v.line v.shape
  unfold ofJson? toJson
  rw [hshape]
  simp [get?_cons_of_ne]

theorem FlowNode.ofJson?_toJson (n : FlowNode) : ofJson? n.toJson = some n := by
  cases n <;> simp [ofJson?, toJson, get?_cons_of_ne]

theorem Step.ofJson?_toJson (s : Step) : ofJson? s.toJson = some s := by
  cases s <;> simp [ofJson?, toJson, details, action, line, get?_cons_of_ne]

theorem Update.ofJson?_toJson (u : Update) : ofJson? u.toJson = some u := by
  simp [ofJson?, toJson, get?_cons_of_ne]

theorem MemberWrite.ofJson?_toJson (w : MemberWrite) : ofJson? w.toJson = some w := by
  simp [ofJson?, toJson, get?_cons_of_ne]

theorem CallFrame.ofJson?_toJson (f : CallFrame) : ofJson? f.toJson = some f := by
  simp [ofJson?, toJson, get?_cons_of_ne]

theorem ReturnRecord.ofJson?_toJson (r : ReturnRecord) : ofJson? r.toJson = some r := by
  simp [ofJson?, toJson, get?_cons_of_ne]

theorem StructureKeyword.ofWord?_word (k : StructureKeyword) : ofWord? k.word = some k := by
  cases k <;> rfl

theorem StructField.ofJson?_toJson (f : StructField) : ofJson? f.toJson = some f := by
  simp [ofJson?, toJson, get?_cons_of_ne]

theorem DataStructure.ofJson?_toJson (d : DataStructure) : ofJson? d.toJson = some d := by
  have hfields := items?_arr_map StructField.ofJson?_toJson d.fields
  simp [ofJson?, toJson, get?_cons_of_ne, StructureKeyword.ofWord?_word, hfields]

theorem Allocation.ofJson?_toJson (a : Allocation) : ofJson? a.toJson = some a := by
  simp [ofJson?, toJson, get?_cons_of_ne]

/-- **A trace is read back from its JSON form.** -/
theorem Trace.ofJson?_toJson (t : Trace) : ofJson? t.toJson = some t := by
  simp [ofJson?, toJson, get?_cons_of_ne, items?_arr_map Variable.ofJson?_toJson,
    items?_arr_map FlowNode.ofJson?_toJson, items?_arr_map Step.ofJson?_toJson,
    items?_arr_map Update.ofJson?_toJson, items?_arr_map CallFrame.ofJson?_toJson,
    items?_arr_map ReturnRecord.ofJson?_toJson, items?_arr_map DataStructure.ofJson?_toJson,
    items?_arr_map MemberWrite.ofJson?_toJson, items?_arr_map Allocation.ofJson?_toJson]

theorem Trace.toJson_injective : Function.Injective toJson := by
  intro t u h
  have hread := ofJson?_toJson t
  rw [h, ofJson?_toJson u] at hread
  exact (Option.some.inj hread).symm

end Walkthrough
