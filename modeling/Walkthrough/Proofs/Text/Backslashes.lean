import Mathlib.Algebra.Ring.Parity
import Mathlib.Data.List.Basic
import Walkthrough.Text.Quotation

/-! # Backslashes before quotes

Whether a quote closes a quotation is told by the backslashes right before it: an even number of
them takes each other along, an odd number takes the quote along.

* `endingSlashes` counts the backslashes that a text ends in.
* `Balanced` says that every quote stands behind an odd number of them, and that an even number is
  left at the end; texts of this kind may be put together (`Balanced.append_iff`).
* `sealed_iff_balanced`: these are the texts that do not break out of a quotation. -/

namespace Walkthrough.Text

/-- The number of backslashes that a text ends in. -/
def endingSlashes (cs : List Char) : Nat := (cs.reverse.takeWhile (· == '\\')).length

/-- Every quote stands behind an odd number of backslashes, and the text ends in an even number. -/
structure Balanced (cs : List Char) : Prop where
  quotes : ∀ before after, cs = before ++ '"' :: after → Odd (endingSlashes before)
  ending : Even (endingSlashes cs)

theorem endingSlashes_append (as cs : List Char) :
    endingSlashes (as ++ cs) =
      if endingSlashes cs = cs.length then cs.length + endingSlashes as else endingSlashes cs := by
  unfold endingSlashes
  rw [List.reverse_append, List.takeWhile_append, List.length_reverse]
  split
  · rw [List.length_append, List.length_reverse]
  · rfl

theorem even_endingSlashes_append {as : List Char} (h : Even (endingSlashes as)) (cs : List Char) :
    Even (endingSlashes (as ++ cs)) ↔ Even (endingSlashes cs) := by
  rw [endingSlashes_append]
  split
  · rename_i hall
    rw [Nat.even_add, hall]
    exact ⟨fun hadd => hadd.mpr h, fun hcs => ⟨fun _ => h, fun _ => hcs⟩⟩
  · rfl

namespace Balanced

theorem nil : Balanced [] := ⟨fun _ _ h => by simp at h, by decide⟩

theorem escaped (c : Char) : Balanced ['\\', c] := by
  refine ⟨fun before after h => ?_, ?_⟩
  · match before with
    | [] => exact absurd (List.head_eq_of_cons_eq h) (by decide)
    | [d] =>
        rw [← List.head_eq_of_cons_eq h]
        decide
    | d :: e :: before =>
        have hlength := congrArg List.length h
        simp at hlength
  · by_cases hc : c = '\\'
    · rw [hc]
      decide
    · simp [endingSlashes, hc]

theorem singleton {c : Char} (hquote : c ≠ '"') (hslash : c ≠ '\\') : Balanced [c] := by
  refine ⟨fun before after h => ?_, ?_⟩
  · match before with
    | [] => exact absurd (List.head_eq_of_cons_eq h) hquote
    | d :: before =>
        have hlength := congrArg List.length h
        simp at hlength
  · simp [endingSlashes, hslash]

/-- Behind a balanced text, the number of backslashes counts from its end on. -/
theorem append_iff {as cs : List Char} (h : Balanced as) : Balanced (as ++ cs) ↔ Balanced cs := by
  have heven := fun bs => even_endingSlashes_append h.ending bs
  have hodd : ∀ bs, Odd (endingSlashes (as ++ bs)) ↔ Odd (endingSlashes bs) := by
    intro bs
    rw [← Nat.not_even_iff_odd, ← Nat.not_even_iff_odd, heven]
  constructor
  · intro hboth
    refine ⟨fun before after hcs => ?_, (heven cs).mp hboth.ending⟩
    rw [← hodd]
    apply hboth.quotes _ after
    rw [hcs, List.append_assoc]
  · intro hcs
    refine ⟨fun before after heq => ?_, (heven cs).mpr hcs.ending⟩
    -- The quote stands in the second text, or else in the first one.
    rcases List.append_eq_append_iff.mp heq with ⟨bs, rfl, hcut⟩ | ⟨bs, has, hcut⟩
    · exact (hodd bs).mpr (hcs.quotes bs after hcut)
    · cases bs with
      | nil =>
          rw [List.append_nil] at has
          rw [← has, ← List.append_nil as, hodd]
          exact hcs.quotes [] after hcut.symm
      | cons d bs =>
          obtain ⟨rfl, -⟩ := List.cons.inj hcut
          exact h.quotes before bs has

end Balanced

/-- **A text stays inside its quotation if its backslashes are balanced**, and only then. -/
theorem sealed_iff_balanced {cs : List Char} : Sealed cs ↔ Balanced cs := by
  constructor
  · intro h
    induction h with
    | nil => exact .nil
    | @escaped c cs _ ih => exact (Balanced.escaped c).append_iff.mpr ih
    | @cons c cs hquote hslash _ ih =>
        exact (Balanced.singleton hquote hslash).append_iff.mpr ih
  · intro h
    -- An escape takes two characters off, so the induction is on the length.
    induction hn : cs.length using Nat.strongRecOn generalizing cs with
    | ind n ih =>
        subst hn
        match cs with
        | [] => exact .nil
        | c :: cs =>
            by_cases hslash : c = '\\'
            · subst hslash
              match cs with
              | [] => exact absurd h.ending (by decide)
              | c :: cs =>
                  have hcs := (Balanced.escaped c).append_iff.mp h
                  have hlength : cs.length < ('\\' :: c :: cs).length := by
                    rw [List.length_cons, List.length_cons]
                    omega
                  exact .escaped (ih cs.length hlength hcs rfl)
            · have hquote : c ≠ '"' := by
                rintro rfl
                exact absurd (h.quotes [] cs rfl) (by decide)
              have hcs := (Balanced.singleton hquote hslash).append_iff.mp h
              exact .cons hquote hslash (ih cs.length (Nat.lt_succ_self _) hcs rfl)

end Walkthrough.Text
