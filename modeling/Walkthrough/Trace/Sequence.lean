import Walkthrough.Trace.Basic

/-! # The sequences of a trace

What holds of each of the nine sequences of a trace in the same way is said once, of a `Sequence`:
it picks its records out of a trace, knows the line of each, and goes along with appending.

* `Sequence.all` are the nine;
* `Sequence.of_concat` picks a sequence out of joined traces. -/

namespace Walkthrough

/-- One of the sequences of a trace, with the line that each record carries. -/
structure Sequence where
  Record : Type
  of : Trace → List Record
  line : Record → Nat
  of_empty : of .empty = []
  of_append : ∀ a b : Trace, of (a ++ b) = of a ++ of b

namespace Sequence

def declarations : Sequence :=
  ⟨Variable, Trace.declarations, Variable.line, rfl, fun _ _ => rfl⟩

def flow : Sequence := ⟨FlowNode, Trace.flow, FlowNode.line, rfl, fun _ _ => rfl⟩

def steps : Sequence := ⟨Step, Trace.steps, Step.line, rfl, fun _ _ => rfl⟩

def updates : Sequence := ⟨Update, Trace.updates, Update.line, rfl, fun _ _ => rfl⟩

def callStack : Sequence := ⟨CallFrame, Trace.callStack, CallFrame.line, rfl, fun _ _ => rfl⟩

def returns : Sequence := ⟨ReturnRecord, Trace.returns, ReturnRecord.line, rfl, fun _ _ => rfl⟩

def dataStructures : Sequence :=
  ⟨DataStructure, Trace.dataStructures, DataStructure.line, rfl, fun _ _ => rfl⟩

def memberWrites : Sequence :=
  ⟨MemberWrite, Trace.memberWrites, MemberWrite.line, rfl, fun _ _ => rfl⟩

def allocations : Sequence := ⟨Allocation, Trace.allocations, Allocation.line, rfl, fun _ _ => rfl⟩

/-- The nine sequences. -/
def all : List Sequence :=
  [declarations, flow, steps, updates, callStack, returns, dataStructures, memberWrites,
    allocations]

theorem of_concat (s : Sequence) (ts : List Trace) : s.of (.concat ts) = ts.flatMap s.of := by
  induction ts with
  | nil => exact s.of_empty
  | cons t ts ih => rw [Trace.concat_cons, s.of_append, ih, List.flatMap_cons]

end Sequence

/-- A trace without records is empty. -/
theorem Trace.isEmpty_iff {t : Trace} : t.isEmpty = true ↔ t = .empty := by
  obtain ⟨declarations, flow, steps, updates, callStack, returns, dataStructures, memberWrites,
    allocations⟩ := t
  simp [isEmpty, empty, and_assoc]

theorem Trace.concat_eq_empty {ts : List Trace} (h : ∀ t ∈ ts, t = .empty) :
    Trace.concat ts = .empty := by
  induction ts with
  | nil => rfl
  | cons t ts ih =>
      rw [concat_cons, h t List.mem_cons_self, empty_append]
      exact ih fun u hu => h u (List.mem_cons_of_mem t hu)

end Walkthrough
