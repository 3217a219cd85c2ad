import Mathlib.Tactic.SplitIfs
import Walkthrough.Json.Printer
import Walkthrough.Text.Lines

/-! # JSON on one line

The text of a value without blanks has no newline in it (`Json.newline_not_mem_compact`): a newline
in a string is escaped, and numbers are made of digits, signs, points and exponent marks. -/

namespace Walkthrough

theorem newline_not_mem_int (n : Int) : '\n' ∉ (toString n).toList := by
  intro h
  rcases Text.isDigit_or_sign_of_mem_toString h with hdigit | hsign
  · exact absurd hdigit (by decide)
  · exact absurd hsign (by decide)

namespace Decimal

theorem newline_not_mem_positional {digits : List Char} (h : '\n' ∉ digits) (k : Int) :
    '\n' ∉ positional digits k := by
  have htake : ∀ i, '\n' ∉ digits.take i := fun i hm => h (List.mem_of_mem_take hm)
  have hdrop : ∀ i, '\n' ∉ digits.drop i := fun i hm => h (List.mem_of_mem_drop hm)
  simp only [positional]
  split
  · simp [h]
  · split
    · simp [htake, hdrop]
    · simp [h]

theorem newline_not_mem_layout (c : Nat) (k : Int) : '\n' ∉ layout c k := by
  have hdigits : '\n' ∉ (toString c).toList := Text.onOneLine_repr c
  have hexponent := newline_not_mem_int
  simp only [layout]
  generalize (toString c).toList = digits at hdigits
  split
  · exact newline_not_mem_positional hdigits k
  · rw [List.mem_append, List.mem_cons]
    rintro (h | h | h)
    · split at h
      · simp_all
      · exact hdigits h
    · exact absurd h (by decide)
    · exact hexponent _ h

theorem newline_not_mem_text (x : Binary64) : '\n' ∉ text x := by
  have hmagnitude : '\n' ∉ if x.isZero then ['0', '.', '0']
      else layout (shortest x).1 (shortest x).2 := by
    split
    · decide
    · exact newline_not_mem_layout _ _
  simp only [text]
  split
  · rw [List.mem_cons]
    rintro (h | h)
    · exact absurd h (by decide)
    · exact hmagnitude h
  · exact hmagnitude

end Decimal

namespace Json

theorem newline_ne_hexDigit : ∀ n < 16, '\n' ≠ hexDigit n := by decide

theorem newline_not_mem_escapeChar (c : Char) : '\n' ∉ escapeChar c := by
  unfold escapeChar
  split_ifs with hquote hslash hback hfeed hnewline hreturn htab hcontrol
  · decide
  · decide
  · decide
  · decide
  · decide
  · decide
  · decide
  · have hhigh := newline_ne_hexDigit (c.toNat / 16) (by omega)
    have hlow := newline_ne_hexDigit (c.toNat % 16) (by omega)
    simp [hhigh, hlow]
  · exact fun h => hnewline (List.mem_singleton.mp h).symm

theorem newline_not_mem_quote (s : String) : '\n' ∉ quote s := by
  simp [quote, newline_not_mem_escapeChar]

theorem newline_not_mem_scalar (j : Json) : '\n' ∉ j.scalar := by
  cases j with
  | null => decide
  | bool b => cases b <;> decide
  | int n => exact newline_not_mem_int n
  | real x => exact Decimal.newline_not_mem_text x
  | str s => exact newline_not_mem_quote s
  | arr _ => simp [scalar]
  | obj _ => simp [scalar]

mutual

theorem newline_not_mem_compactChars : ∀ j : Json, '\n' ∉ j.compactChars
  | null => newline_not_mem_scalar null
  | bool b => newline_not_mem_scalar (bool b)
  | int n => newline_not_mem_scalar (int n)
  | real x => newline_not_mem_scalar (real x)
  | str s => newline_not_mem_scalar (str s)
  | arr items => by
      have h := newline_not_mem_compactItems items
      simp [compactChars, h]
  | obj fields => by
      have h := newline_not_mem_compactFields fields
      simp [compactChars, h]

theorem newline_not_mem_compactItems : ∀ items : List Json, '\n' ∉ compactItems items
  | [] => by simp [compactItems]
  | [x] => newline_not_mem_compactChars x
  | x :: y :: xs => by
      have hx := newline_not_mem_compactChars x
      have hxs := newline_not_mem_compactItems (y :: xs)
      simp [compactItems, hx, hxs]

theorem newline_not_mem_compactFields :
    ∀ fields : List (String × Json), '\n' ∉ compactFields fields
  | [] => by simp [compactFields]
  | [(k, v)] => by
      have hv := newline_not_mem_compactChars v
      simp [compactFields, newline_not_mem_quote, hv]
  | (k, v) :: f :: fs => by
      have hv := newline_not_mem_compactChars v
      have hfs := newline_not_mem_compactFields (f :: fs)
      simp [compactFields, newline_not_mem_quote, hv, hfs]

end

/-- **A value without blanks is on one line.** -/
theorem newline_not_mem_compact (j : Json) : '\n' ∉ j.compact.toList := by
  rw [compact, String.toList_ofList]
  exact newline_not_mem_compactChars j

end Json

end Walkthrough
