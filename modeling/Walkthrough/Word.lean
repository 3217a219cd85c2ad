/-! # Words of 64 bits

The bounds of the integers that fit a word, and arithmetic on signed words that notices a result
that does not fit.  The least signed integer is one below the negated greatest one.

* `signed?` is an integer as a signed word, if it fits (`signed?_eq_some_iff`);
* `mul?` and `add?` are the exact product and sum, if they fit. -/

namespace Walkthrough.Word

/-- The greatest signed integer, `2 ^ 63 - 1`. -/
def maxSigned : Nat := 9223372036854775807

/-- The greatest unsigned integer, `2 ^ 64 - 1`. -/
def maxUnsigned : Nat := 18446744073709551615

/-- An integer as a signed word, if it fits. -/
def signed? (n : Int) : Option Int64 :=
  if -(maxSigned : Int) - 1 ≤ n ∧ n ≤ maxSigned then some (.ofInt n) else none

/-- The product of two signed words, if it fits one. -/
def mul? (a b : Int64) : Option Int64 := signed? (a.toInt * b.toInt)

/-- The sum of two signed words, if it fits one. -/
def add? (a b : Int64) : Option Int64 := signed? (a.toInt + b.toInt)

theorem toInt_bounds (a : Int64) : -(maxSigned : Int) - 1 ≤ a.toInt ∧ a.toInt ≤ maxSigned := by
  have hle := a.le_toInt
  have hlt := a.toInt_lt
  unfold maxSigned
  omega

theorem signed?_eq_some_iff {n : Int} {a : Int64} : signed? n = some a ↔ a.toInt = n := by
  unfold signed?
  split
  · rename_i h
    have hn : (Int64.ofInt n).toInt = n :=
      Int64.toInt_ofInt_of_le (by unfold maxSigned at h; omega) (by unfold maxSigned at h; omega)
    rw [Option.some.injEq, ← Int64.toInt_inj, hn]
    exact eq_comm
  · rename_i h
    have ha := toInt_bounds a
    simp only [reduceCtorEq, false_iff]
    omega

theorem signed?_eq_none_iff {n : Int} :
    signed? n = none ↔ n < -(maxSigned : Int) - 1 ∨ (maxSigned : Int) < n := by
  unfold signed?
  split
  · simp only [reduceCtorEq, false_iff]
    omega
  · simp only [true_iff]
    omega

end Walkthrough.Word
