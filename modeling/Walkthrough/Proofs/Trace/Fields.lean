import Walkthrough.Proofs.Trace.Constructs

/-! # The fields of data structures

One field declaration may declare several fields, each by a declarator of its own.  What a data
structure declares is stated here from the declarators; what is recorded of it is, for every
declaration, the first of them.

* `StructField.declaredBy` are the fields of one declaration, `Node.declaredFields` those of a
  data structure.
* `Node.structFields_eq_declaredFields_iff`: all fields are recorded if and only if no declaration
  has two declarators.
* `Node.fields_record_first_declarators` says this of the records of a trace, and
  `Node.later_declarators_lost` shows it at a structure with one declaration of two fields. -/

namespace Walkthrough

theorem flatMap_take_one_sublist {α β : Type} (f : α → List β) (as : List α) :
    (as.flatMap fun a => (f a).take 1).Sublist (as.flatMap f) := by
  induction as with
  | nil => exact .slnil
  | cons a as ih => exact (List.take_sublist 1 (f a)).append ih

theorem flatMap_take_one_eq_iff {α β : Type} {f : α → List β} {as : List α} :
    (as.flatMap fun a => (f a).take 1) = as.flatMap f ↔ ∀ a ∈ as, (f a).length ≤ 1 := by
  constructor
  · intro h
    induction as with
    | nil => simp
    | cons a as ih =>
        rw [List.flatMap_cons, List.flatMap_cons] at h
        -- The other parts do not make up for what the first one loses.
        have hle := (flatMap_take_one_sublist f as).length_le
        have hlen := congrArg List.length h
        rw [List.length_append, List.length_append, List.length_take] at hlen
        have ha : (f a).length ≤ 1 := by omega
        rw [List.take_of_length_le ha] at h
        exact List.forall_mem_cons.mpr ⟨ha, ih (List.append_cancel_left h)⟩
  · intro h
    rw [List.flatMap_def, List.flatMap_def]
    congr 1
    apply List.map_congr_left
    intro a ha
    exact List.take_of_length_le (h a ha)

namespace Node

/-- The children, named or not, under the field. -/
def allByField (n : Node) (field : String) : List Node :=
  n.children.filter (·.label.field == some field)

theorem byField?_eq_head? (n : Node) (field : String) :
    n.byField? field = (n.allByField field).head? := by
  rw [allByField, List.head?_filter]
  rfl

/-- The field declarations in the body of a data structure. -/
def fieldDeclarations (n : Node) : List Node :=
  match n.byField? "body" with
  | none => []
  | some body => body.namedChildren.filter (·.kind == .fieldDeclaration)

end Node

/-- The fields that a declaration declares: one for each declarator, with its text for a name, and
a single one without a name if there is no declarator. -/
def StructField.declaredBy (declaration : Node) : List StructField :=
  match declaration.allByField "declarator" with
  | [] => [⟨declaration.fieldText? "type", none, false⟩]
  | declarators => declarators.map fun d =>
      ⟨declaration.fieldText? "type", some d.text, decide ('*' ∈ d.text.toList)⟩

theorem StructField.length_declaredBy_le_one_iff {declaration : Node} :
    (declaredBy declaration).length ≤ 1 ↔
      (declaration.allByField "declarator").length ≤ 1 := by
  unfold declaredBy
  split
  · simp [*]
  · rw [List.length_map]

namespace Node

/-- The fields that a data structure declares. -/
def declaredFields (n : Node) : List StructField :=
  n.fieldDeclarations.flatMap StructField.declaredBy

theorem structFields_eq (n : Node) :
    structFields n = n.fieldDeclarations.flatMap fun d => (StructField.declaredBy d).take 1 := by
  have hfirst : ∀ d : Node,
      [(⟨d.fieldText? "type", d.fieldText? "declarator",
        Clue.fieldIsPointer (d.fieldText? "declarator")⟩ : StructField)] =
      (StructField.declaredBy d).take 1 := by
    intro d
    have hname : d.fieldText? "declarator" = (d.allByField "declarator").head?.map text := by
      rw [fieldText?, byField?_eq_head?]
    rw [hname, StructField.declaredBy]
    cases d.allByField "declarator" with
    | nil => rfl
    | cons m ms => simp [Clue.fieldIsPointer, Text.holdsChar]
  unfold structFields fieldDeclarations
  cases n.byField? "body" with
  | none => rfl
  | some body =>
      simp only [← hfirst]
      exact List.map_eq_flatMap

theorem structFields_sublist (n : Node) : (structFields n).Sublist n.declaredFields := by
  rw [structFields_eq]
  exact flatMap_take_one_sublist _ _

theorem structFields_eq_declaredFields_iff (n : Node) :
    structFields n = n.declaredFields ↔
      ∀ d ∈ n.fieldDeclarations, (d.allByField "declarator").length ≤ 1 := by
  rw [structFields_eq, declaredFields, flatMap_take_one_eq_iff]
  simp only [StructField.length_declaredBy_le_one_iff]

end Node

theorem Visit.fields_eq_of_mem_records {v : Visit} {d : DataStructure}
    (h : d ∈ v.records.dataStructures) : d.fields = structFields v.node := by
  cases v.records_tell .dataStructure with
  | none _ hr =>
      have hr : v.records.dataStructures = [] := hr
      rw [hr] at h
      cases h
  | one hq _ _ =>
      rcases hq with hk | hk
      all_goals
        rw [records, hk] at h
        rw [List.mem_singleton.mp h]

namespace Node

/-- **The first declarator of every declaration is recorded.**  Without bounds, the recorded data
structures are, in pre-order, those of the structures and classes of the tree.  The fields of each
are declared fields in their order, the first one of every declaration in the body; they are all
declared fields if and only if no declaration has two declarators. -/
theorem fields_record_first_declarators (n : Node) :
    ∃ t, n.trace .unbounded = .ok t ∧
      List.Forall₂ (fun o d =>
          d.fields = (o.node.fieldDeclarations.flatMap fun f =>
            (StructField.declaredBy f).take 1) ∧
          d.fields.Sublist o.node.declaredFields ∧
          (d.fields = o.node.declaredFields ↔
            ∀ f ∈ o.node.fieldDeclarations, (f.allByField "declarator").length ≤ 1))
        (n.constructs .dataStructure) t.dataStructures := by
  refine ⟨n.recursiveTrace, n.trace_unbounded, (n.constructs_match .dataStructure).imp ?_⟩
  rintro o d ⟨hd, -⟩
  have hd : o.visit.records.dataStructures = [d] := hd
  have hmem : d ∈ o.visit.records.dataStructures := hd ▸ List.mem_singleton_self d
  have hfields : d.fields = structFields o.node := Visit.fields_eq_of_mem_records hmem
  rw [hfields]
  exact ⟨structFields_eq _, structFields_sublist _, structFields_eq_declaredFields_iff _⟩

/-- A structure with one declaration of two fields, the second of them a pointer. -/
def sampleStructure : Node :=
  .mk ⟨"struct_specifier", 0, "struct S \x7b int x, *y; \x7d", true, none⟩ [
    .mk ⟨"struct", 0, "struct", false, none⟩ [],
    .mk ⟨"type_identifier", 0, "S", true, some "name"⟩ [],
    .mk ⟨"field_declaration_list", 0, "\x7b int x, *y; \x7d", true, some "body"⟩ [
      .mk ⟨"\x7b", 0, "\x7b", false, none⟩ [],
      .mk ⟨"field_declaration", 0, "int x, *y;", true, none⟩ [
        .mk ⟨"primitive_type", 0, "int", true, some "type"⟩ [],
        .mk ⟨"field_identifier", 0, "x", true, some "declarator"⟩ [],
        .mk ⟨",", 0, ",", false, none⟩ [],
        .mk ⟨"pointer_declarator", 0, "*y", true, some "declarator"⟩ [
          .mk ⟨"*", 0, "*", false, none⟩ [],
          .mk ⟨"field_identifier", 0, "y", true, some "declarator"⟩ []],
        .mk ⟨";", 0, ";", false, none⟩ []],
      .mk ⟨"\x7d", 0, "\x7d", false, none⟩ []]]

/-- **The second of two fields in one declaration is lost.** -/
theorem later_declarators_lost :
    sampleStructure.declaredFields =
        [⟨some "int", some "x", false⟩, ⟨some "int", some "*y", true⟩] ∧
      ∃ t, sampleStructure.trace .unbounded = .ok t ∧
        t.dataStructures.map (·.fields) = [[⟨some "int", some "x", false⟩]] ∧
        t.dataStructures.map (·.fields) ≠
          (sampleStructure.constructs .dataStructure).map (·.node.declaredFields) := by
  have hrecorded : sampleStructure.recursiveTrace.dataStructures.map (·.fields) =
      [[⟨some "int", some "x", false⟩]] := by decide +kernel
  refine ⟨by decide +kernel, _, sampleStructure.trace_unbounded, hrecorded, ?_⟩
  rw [hrecorded]
  decide +kernel

end Node

end Walkthrough
