/-! # Numerals

Numbers are written in decimal digits, a negative one with a sign before them.

* `isDigit_of_mem_repr`, `isDigit_or_sign_of_mem_toString` are the characters of numerals;
* `repr_injective`, `toString_injective`: a number is told from its numeral. -/

namespace Walkthrough.Text

theorem isDigit_of_mem_repr {n : Nat} {c : Char} (h : c ∈ n.repr.toList) : c.isDigit = true := by
  rw [Nat.toList_repr] at h
  exact Nat.isDigit_of_mem_toDigits (by decide) (by decide) h

theorem repr_injective {m n : Nat} (h : m.repr.toList = n.repr.toList) : m = n := by
  rw [Nat.toList_repr, Nat.toList_repr] at h
  rw [← Nat.ofDigitChars_ten_toDigits (n := m), h, Nat.ofDigitChars_ten_toDigits]

/-- The decimal numeral of an integer. -/
theorem toList_toString (n : Int) :
    (toString n).toList = (if n < 0 then ['-'] else []) ++ Nat.toDigits 10 n.natAbs := by
  cases n with
  | ofNat n => exact Nat.toList_repr
  | negSucc n =>
      rw [if_pos (Int.negSucc_lt_zero n)]
      change ("-" ++ (n + 1).repr).toList = _
      rw [String.toList_append, Nat.toList_repr]
      rfl

theorem isDigit_or_sign_of_mem_toString {n : Int} {c : Char} (h : c ∈ (toString n).toList) :
    c.isDigit = true ∨ c = '-' := by
  rw [toList_toString, ← Nat.toList_repr, List.mem_append] at h
  rcases h with hsign | hdigit
  · split at hsign
    · exact .inr (List.mem_singleton.mp hsign)
    · cases hsign
  · exact .inl (isDigit_of_mem_repr hdigit)

theorem toString_injective {m n : Int} (h : (toString m).toList = (toString n).toList) : m = n := by
  have hsign : ∀ {k : Nat} {cs : List Char}, k.repr.toList ≠ '-' :: cs := by
    intro k cs hk
    have hdigit := isDigit_of_mem_repr (hk ▸ List.mem_cons_self : '-' ∈ k.repr.toList)
    exact absurd hdigit (by decide)
  rw [toList_toString, toList_toString, ← Nat.toList_repr, ← Nat.toList_repr] at h
  by_cases hm : m < 0 <;> by_cases hn : n < 0
  · rw [if_pos hm, if_pos hn] at h
    have habs := repr_injective (List.append_cancel_left h)
    omega
  · rw [if_pos hm, if_neg hn] at h
    exact absurd h.symm hsign
  · rw [if_neg hm, if_pos hn] at h
    exact absurd h hsign
  · rw [if_neg hm, if_neg hn] at h
    have habs := repr_injective h
    omega

end Walkthrough.Text
