/-! # Cutting

A list is cut at the elements that satisfy a test: the pieces are what stands between them, so
there is one piece more than there are cuts, and two neighbouring cuts enclose an empty piece.

* `cutAt` cuts; `length_cutAt` counts the pieces;
* joining with a value and cutting at it undo each other (`intercalate_cutAt`,
  `cutAt_intercalate`). -/

namespace Walkthrough.Text

variable {α : Type}

/-- Puts one more element in front of the first piece. -/
def consFirst (a : α) : List (List α) → List (List α)
  | [] => [[a]]
  | p :: ps => (a :: p) :: ps

/-- The pieces of a list between the elements that satisfy `sep`. -/
def cutAt (sep : α → Bool) : List α → List (List α)
  | [] => [[]]
  | a :: as => if sep a then [] :: cutAt sep as else consFirst a (cutAt sep as)

theorem cutAt_ne_nil (sep : α → Bool) (as : List α) : cutAt sep as ≠ [] := by
  cases as with
  | nil => simp [cutAt]
  | cons a as =>
      unfold cutAt
      split
      · simp
      · cases cutAt sep as <;> simp [consFirst]

theorem length_consFirst (a : α) {ps : List (List α)} (h : ps ≠ []) :
    (consFirst a ps).length = ps.length := by
  cases ps with
  | nil => exact absurd rfl h
  | cons p ps => rfl

/-- One piece more than there are cuts. -/
theorem length_cutAt (sep : α → Bool) (as : List α) :
    (cutAt sep as).length = as.countP sep + 1 := by
  induction as with
  | nil => rfl
  | cons a as ih =>
      by_cases h : sep a = true
      · simp [cutAt, h, ih]
      · simp [cutAt, h, length_consFirst a (cutAt_ne_nil sep as), ih]

theorem intercalate_consFirst (sep : List α) (a : α) {ps : List (List α)} (h : ps ≠ []) :
    sep.intercalate (consFirst a ps) = a :: sep.intercalate ps := by
  cases ps with
  | nil => exact absurd rfl h
  | cons p ps => exact List.intercalate_cons_cons_left

/-! ### Cuts at one value -/

section Value

variable [DecidableEq α] {x : α}

theorem cutAt_of_not_mem {as : List α} (h : x ∉ as) : cutAt (· == x) as = [as] := by
  induction as with
  | nil => rfl
  | cons a as ih =>
      rw [List.mem_cons, not_or] at h
      have ha : (a == x) = false := beq_eq_false_iff_ne.mpr (Ne.symm h.1)
      rw [cutAt, ha, ih h.2]
      rfl

/-- A cut at one place of a list cuts what stands before it and what stands behind it. -/
theorem cutAt_append_cons (x : α) (as bs : List α) :
    cutAt (· == x) (as ++ x :: bs) = cutAt (· == x) as ++ cutAt (· == x) bs := by
  induction as with
  | nil => simp [cutAt]
  | cons a as ih =>
      rw [List.cons_append, cutAt, cutAt, ih]
      split
      · rfl
      · have hne := cutAt_ne_nil (· == x) as
        generalize cutAt (· == x) as = ps at hne ⊢
        cases ps with
        | nil => exact absurd rfl hne
        | cons p ps => rfl

theorem not_mem_of_mem_cutAt {as p : List α} (h : p ∈ cutAt (· == x) as) : x ∉ p := by
  induction as generalizing p with
  | nil =>
      obtain rfl := List.mem_singleton.mp h
      exact List.not_mem_nil
  | cons a as ih =>
      rw [cutAt] at h
      split at h
      · rcases List.mem_cons.mp h with rfl | h
        · exact List.not_mem_nil
        · exact ih h
      · rename_i ha
        have hne := cutAt_ne_nil (· == x) as
        generalize cutAt (· == x) as = ps at hne h ih
        cases ps with
        | nil => exact absurd rfl hne
        | cons q qs =>
            rcases List.mem_cons.mp h with rfl | h
            · have hx : x ≠ a := fun he => ha (beq_iff_eq.mpr he.symm)
              rw [List.mem_cons, not_or]
              exact ⟨hx, ih List.mem_cons_self⟩
            · exact ih (List.mem_cons_of_mem q h)

/-- Joining with the value that was cut at gives the list back. -/
theorem intercalate_cutAt (x : α) (as : List α) : [x].intercalate (cutAt (· == x) as) = as := by
  induction as with
  | nil => rfl
  | cons a as ih =>
      have hne := cutAt_ne_nil (· == x) as
      by_cases h : a = x
      · rw [cutAt, if_pos (beq_iff_eq.mpr h), List.intercalate_cons_of_ne_nil hne, ih, h]
        rfl
      · rw [cutAt, if_neg (mt beq_iff_eq.mp h), intercalate_consFirst _ _ hne, ih]

/-- Pieces that were joined with a value are found again by cutting at it. -/
theorem cutAt_intercalate {ps : List (List α)} (hne : ps ≠ []) (h : ∀ p ∈ ps, x ∉ p) :
    cutAt (· == x) ([x].intercalate ps) = ps := by
  induction ps with
  | nil => exact absurd rfl hne
  | cons p ps ih =>
      obtain ⟨hp, hps⟩ := List.forall_mem_cons.mp h
      by_cases hnil : ps = []
      · rw [hnil, List.intercalate_singleton, cutAt_of_not_mem hp]
      · rw [List.intercalate_cons_of_ne_nil hnil, List.append_assoc, List.singleton_append,
          cutAt_append_cons, cutAt_of_not_mem hp, ih hnil hps]
        rfl

end Value

end Walkthrough.Text
