import Mathlib.Data.List.Nodup
import Walkthrough.Json.Value
import Walkthrough.Trace.Json

/-! # Exact values

Of a value without floating-point numbers, in whose objects no key stands twice, nothing is lost in
writing.  All records of a trace are written as such values (`Trace.exact_toJson`). -/

namespace Walkthrough

namespace Json

/-- No number in a value is a floating-point one, and no object has a key twice. -/
inductive Exact : Json → Prop
  | null : Exact null
  | bool (b : Bool) : Exact (bool b)
  | int (n : Int) : Exact (int n)
  | str (s : String) : Exact (str s)
  | arr {items : List Json} (h : ∀ x ∈ items, Exact x) : Exact (arr items)
  | obj {fields : List (String × Json)} (hkeys : (fields.map Prod.fst).Nodup)
      (h : ∀ f ∈ fields, Exact f.2) : Exact (obj fields)

attribute [simp] Exact.null Exact.bool Exact.int Exact.str

@[simp] theorem exact_optStr (t : Option String) : (optStr t).Exact := by
  cases t with
  | none => exact .null
  | some s => exact .str s

@[simp] theorem exact_nat (n : Nat) : (nat n).Exact := .int n

theorem exact_arr_map {α : Type} {f : α → Json} (h : ∀ a, (f a).Exact) (as : List α) :
    (arr (as.map f)).Exact := by
  refine .arr fun x hx => ?_
  obtain ⟨a, -, rfl⟩ := List.mem_map.mp hx
  exact h a

end Json

open Json

theorem LooseInt.exact_toJson (n : LooseInt) : n.toJson.Exact := by
  cases n with
  | number n => exact .int n
  | nan => exact .str "NaN"

theorem Variable.exact_toJson (v : Variable) : v.toJson.Exact := by
  obtain ⟨name, line, shape⟩ := v
  cases shape with
  | int value =>
      have hvalue : ((value.map LooseInt.toJson).getD .null).Exact := by
        cases value with
        | none => exact .null
        | some n => exact n.exact_toJson
      exact .obj (by simp [Shape.fields]) (by simp [Shape.fields, hvalue])
  | pointer value => exact .obj (by simp [Shape.fields]) (by simp [Shape.fields])
  | array values value =>
      have hvalues : ((values.map fun vs => arr (vs.map LooseInt.toJson)).getD .null).Exact := by
        cases values with
        | none => exact .null
        | some ns => exact exact_arr_map LooseInt.exact_toJson ns
      exact .obj (by simp [Shape.fields]) (by simp [Shape.fields, hvalues])

theorem FlowNode.exact_toJson (n : FlowNode) : n.toJson.Exact := by
  cases n <;> exact .obj (by simp) (by simp)

theorem Step.exact_toJson (s : Step) : s.toJson.Exact := by
  cases s <;> exact .obj (by simp [Step.details]) (by simp [Step.details])

theorem Update.exact_toJson (u : Update) : u.toJson.Exact := .obj (by simp) (by simp)

theorem MemberWrite.exact_toJson (w : MemberWrite) : w.toJson.Exact := .obj (by simp) (by simp)

theorem CallFrame.exact_toJson (f : CallFrame) : f.toJson.Exact := .obj (by simp) (by simp)

theorem ReturnRecord.exact_toJson (r : ReturnRecord) : r.toJson.Exact := .obj (by simp) (by simp)

theorem StructField.exact_toJson (f : StructField) : f.toJson.Exact := .obj (by simp) (by simp)

theorem DataStructure.exact_toJson (d : DataStructure) : d.toJson.Exact := by
  have hfields := exact_arr_map StructField.exact_toJson d.fields
  exact .obj (by simp) (by simp [hfields])

theorem Allocation.exact_toJson (a : Allocation) : a.toJson.Exact := .obj (by simp) (by simp)

/-- **A trace is written without floating-point numbers, and with no key twice in an object.** -/
theorem Trace.exact_toJson (t : Trace) : t.toJson.Exact := by
  refine .obj (by simp) ?_
  simp only [List.forall_mem_cons]
  exact ⟨exact_arr_map Variable.exact_toJson _, exact_arr_map FlowNode.exact_toJson _,
    exact_arr_map Step.exact_toJson _, exact_arr_map Update.exact_toJson _,
    exact_arr_map CallFrame.exact_toJson _, exact_arr_map ReturnRecord.exact_toJson _,
    exact_arr_map DataStructure.exact_toJson _, exact_arr_map MemberWrite.exact_toJson _,
    exact_arr_map Allocation.exact_toJson _, List.forall_mem_nil _⟩

end Walkthrough
