/-! # Kinds of syntax nodes

The grammar tags of C++ that a walkthrough takes note of, as a closed type.  Every other tag is
of kind `other`, which records nothing and is walked through all the same.

* `Kind.ofTag` reads a tag; `member_expression` is a second tag of a field expression;
* `Kind.tag` is the canonical tag, and reading it gives the kind back (`ofTag_tag`);
* `Kind.tags` are all tags of a kind, so two tags are of the same kind if they are the same, or the
  two tags of a field expression, or both unknown (`ofTag_eq_ofTag_iff`). -/

namespace Walkthrough

/-- The kinds of syntax nodes that matter to a walkthrough. -/
inductive Kind where
  | initDeclarator
  | assignmentExpression
  | functionDefinition
  | forStatement
  | ifStatement
  | callExpression
  | returnStatement
  | structSpecifier
  | classSpecifier
  | newExpression
  | fieldDeclaration
  | fieldExpression
  | pointerDeclarator
  | referenceDeclarator
  | functionDeclarator
  | other
deriving DecidableEq, Repr

namespace Kind

/-- The kind that a grammar tag stands for. -/
def ofTag : String → Kind
  | "init_declarator" => initDeclarator
  | "assignment_expression" => assignmentExpression
  | "function_definition" => functionDefinition
  | "for_statement" => forStatement
  | "if_statement" => ifStatement
  | "call_expression" => callExpression
  | "return_statement" => returnStatement
  | "struct_specifier" => structSpecifier
  | "class_specifier" => classSpecifier
  | "new_expression" => newExpression
  | "field_declaration" => fieldDeclaration
  | "field_expression" => fieldExpression
  | "member_expression" => fieldExpression
  | "pointer_declarator" => pointerDeclarator
  | "reference_declarator" => referenceDeclarator
  | "function_declarator" => functionDeclarator
  | _ => other

/-- The canonical grammar tag of a kind. -/
def tag : Kind → String
  | initDeclarator => "init_declarator"
  | assignmentExpression => "assignment_expression"
  | functionDefinition => "function_definition"
  | forStatement => "for_statement"
  | ifStatement => "if_statement"
  | callExpression => "call_expression"
  | returnStatement => "return_statement"
  | structSpecifier => "struct_specifier"
  | classSpecifier => "class_specifier"
  | newExpression => "new_expression"
  | fieldDeclaration => "field_declaration"
  | fieldExpression => "field_expression"
  | pointerDeclarator => "pointer_declarator"
  | referenceDeclarator => "reference_declarator"
  | functionDeclarator => "function_declarator"
  | other => "other"

/-- Declarators that hold another declarator. -/
def isWrapping : Kind → Bool
  | pointerDeclarator | referenceDeclarator => true
  | _ => false

/-- Reading the canonical tag of a kind gives the kind. -/
theorem ofTag_tag (k : Kind) : ofTag k.tag = k := by cases k <;> rfl

/-- All tags of a kind; the unknown tags, which are of kind `other`, are not listed. -/
def tags : Kind → List String
  | fieldExpression => ["field_expression", "member_expression"]
  | other => []
  | k => [k.tag]

theorem ofTag_of_mem_tags {k : Kind} {t : String} (h : t ∈ k.tags) : ofTag t = k := by
  cases k with
  | fieldExpression =>
      rcases List.mem_cons.mp h with rfl | h
      · rfl
      · rw [List.mem_singleton.mp h]
        rfl
  | other => exact absurd h List.not_mem_nil
  | _ =>
      rw [List.mem_singleton.mp h]
      rfl

theorem mem_tags_ofTag {t : String} (h : ofTag t ≠ other) : t ∈ (ofTag t).tags := by
  revert h
  unfold ofTag
  split
  case h_17 => exact fun h => absurd rfl h
  all_goals exact fun _ => by decide

/-- A tag is of kind `other` if no kind has it. -/
theorem ofTag_eq_other_iff {t : String} : ofTag t = other ↔ ∀ k : Kind, t ∉ k.tags := by
  constructor
  · intro h k hk
    rw [ofTag_of_mem_tags hk] at h
    subst h
    exact absurd hk List.not_mem_nil
  · intro h
    exact Decidable.byContradiction fun hne => h _ (mem_tags_ofTag hne)

/-- **When two tags are of the same kind**: no kind but that of field expressions has two tags. -/
theorem ofTag_eq_ofTag_iff {t t' : String} :
    ofTag t = ofTag t' ↔ t = t' ∨ (t ∈ tags fieldExpression ∧ t' ∈ tags fieldExpression) ∨
      ∀ k : Kind, t ∉ k.tags ∧ t' ∉ k.tags := by
  constructor
  · intro h
    by_cases hother : ofTag t = other
    · have hunknown := ofTag_eq_other_iff.mp hother
      have hunknown' := ofTag_eq_other_iff.mp (h.symm.trans hother)
      exact .inr (.inr fun k => ⟨hunknown k, hunknown' k⟩)
    · have ht := mem_tags_ofTag hother
      have ht' := mem_tags_ofTag (h ▸ hother)
      rw [← h] at ht'
      cases hk : ofTag t with
      | fieldExpression =>
          rw [hk] at ht ht'
          exact .inr (.inl ⟨ht, ht'⟩)
      | other => exact absurd hk hother
      | _ =>
          rw [hk] at ht ht'
          exact .inl ((List.mem_singleton.mp ht).trans (List.mem_singleton.mp ht').symm)
  · rintro (rfl | ⟨ht, ht'⟩ | h)
    · rfl
    · rw [ofTag_of_mem_tags ht, ofTag_of_mem_tags ht']
    · rw [ofTag_eq_other_iff.mpr fun k => (h k).1, ofTag_eq_other_iff.mpr fun k => (h k).2]

end Kind

end Walkthrough
