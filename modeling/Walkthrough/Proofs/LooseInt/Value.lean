import Mathlib.Data.List.Forall2
import Mathlib.Data.List.TakeWhile
import Mathlib.Data.Nat.Digits.Defs
import Mathlib.Tactic.IntervalCases
import Walkthrough.LooseInt
import Walkthrough.Text.Numeral

/-! # What leniently read integers are worth

A text is read as the integer that it begins with, of any size, brought within the bounds of a
signed word.

* `Magnitude.Holds` says which unbounded value the state of an accumulation stands for;
  `Magnitude.Holds.push` is one more digit, `Magnitude.Holds.foldl` a whole run of them, and
  `Magnitude.Holds.toInt_signed` the end.
* `LooseInt.Layout` are the parts of a text that is read, and `LooseInt.Layout.Of` says that each
  of them goes as far as it can; every text has them (`LooseInt.exists_layout`).
* `LooseInt.readChars_of_layout` reads the value off the parts; `LooseInt.read_clamps` puts
  together what follows. -/

namespace Walkthrough

open Text

/-! ### The accumulation -/

namespace Magnitude

/-- The unbounded value of the digits read so far, which the word holds unless it is too great. -/
def Holds (n : Nat) : Magnitude → Prop
  | within w => w.toInt = n
  | beyond => Word.maxSigned < n

theorem holds_within {n : Nat} {w : Int64} : (within w).Holds n ↔ w.toInt = n := Iff.rfl

theorem holds_beyond {n : Nat} : beyond.Holds n ↔ Word.maxSigned < n := Iff.rfl

theorem Holds.push {radix d n : Nat} {m : Magnitude} (h : m.Holds n) (hpos : 0 < radix)
    (hradix : radix ≤ Word.maxSigned) (hd : d ≤ Word.maxSigned) :
    (m.push radix d).Holds (radix * n + d) := by
  have hword {k : Nat} (hk : k ≤ Word.maxSigned) : (Int64.ofNat k).toInt = k :=
    Int64.toInt_ofNat_of_lt (by unfold Word.maxSigned at hk; omega)
  cases m with
  | beyond =>
      have hle : n ≤ radix * n := Nat.le_mul_of_pos_left n hpos
      rw [holds_beyond] at h
      rw [Magnitude.push, holds_beyond]
      omega
  | within w =>
      have hproduct : w.toInt * (Int64.ofNat radix).toInt = (radix * n : Nat) := by
        rw [hword hradix, holds_within.mp h, Nat.cast_mul, mul_comm]
      rw [Magnitude.push, Word.mul?, hproduct]
      cases hp : Word.signed? (radix * n : Nat) with
      | none =>
          have := Word.signed?_eq_none_iff.mp hp
          rw [Option.bind_none, holds_beyond]
          omega
      | some p =>
          have hsum : p.toInt + (Int64.ofNat d).toInt = (radix * n + d : Nat) := by
            rw [hword hd, Word.signed?_eq_some_iff.mp hp, Nat.cast_add]
          rw [Option.bind_some, Word.add?, hsum]
          cases hs : Word.signed? (radix * n + d : Nat) with
          | none =>
              have := Word.signed?_eq_none_iff.mp hs
              rw [holds_beyond]
              omega
          | some s => exact Word.signed?_eq_some_iff.mp hs

theorem Holds.foldl {radix n : Nat} {m : Magnitude} (h : m.Holds n) (hpos : 0 < radix)
    (hradix : radix ≤ Word.maxSigned) {ds : List Nat} (hds : ∀ d ∈ ds, d ≤ Word.maxSigned) :
    (ds.foldl (Magnitude.push radix) m).Holds (ds.foldl (fun n d => radix * n + d) n) := by
  induction ds generalizing m n with
  | nil => exact h
  | cons d ds ih =>
      obtain ⟨hd, hds⟩ := List.forall_mem_cons.mp hds
      exact ih (h.push hpos hradix hd) hds

/-- A magnitude is never negative, so its negation is exact. -/
theorem Holds.toInt_neg {n : Nat} {w : Int64} (h : (within w).Holds n) :
    (-w).toInt = -w.toInt := by
  have hw := holds_within.mp h
  have hlt := w.toInt_lt
  rw [Int64.toInt_neg, Int.bmod_eq_of_le (by omega) (by omega)]

theorem Holds.toInt_signed {n : Nat} {m : Magnitude} (h : m.Holds n) (negative : Bool) :
    (m.signed negative).toInt =
      max (-2 ^ 63) (min (2 ^ 63 - 1) (if negative then -(n : Int) else n)) := by
  cases m with
  | beyond =>
      have hn := holds_beyond.mp h
      unfold Word.maxSigned at hn
      cases negative with
      | true =>
          rw [signed, if_pos rfl, if_pos rfl, Int64.toInt_minValue]
          omega
      | false =>
          rw [signed, if_neg Bool.false_ne_true, if_neg Bool.false_ne_true, Int64.toInt_maxValue]
          omega
  | within w =>
      have hw := holds_within.mp h
      have hlt := w.toInt_lt
      cases negative with
      | true =>
          rw [signed, if_pos rfl, if_pos rfl, h.toInt_neg]
          omega
      | false =>
          rw [signed, if_neg Bool.false_ne_true, if_neg Bool.false_ne_true]
          omega

end Magnitude

namespace LooseInt

/-! ### Digits -/

/-- The character is the digit of this value, if it is a letter in either case. -/
def IsDigit (radix : Nat) (c : Char) (d : Nat) : Prop :=
  d < radix ∧ (c = d.digitChar ∨ c = d.digitChar.toUpper)

theorem toNat_digitChar {d : Nat} (h : d < 16) :
    d.digitChar.toNat = if d < 10 then d + 48 else d + 87 := by
  interval_cases d <;> rfl

theorem toNat_toUpper_digitChar {d : Nat} (h : d < 16) :
    d.digitChar.toUpper.toNat = if d < 10 then d + 48 else d + 55 := by
  interval_cases d <;> rfl

theorem isDigit_iff_toNat {radix : Nat} (hradix : radix ≤ 16) {c : Char} {d : Nat} :
    IsDigit radix c d ↔ d < radix ∧
      (d < 10 ∧ c.toNat = d + 48 ∨ 10 ≤ d ∧ (c.toNat = d + 87 ∨ c.toNat = d + 55)) := by
  unfold IsDigit
  refine and_congr_right fun hlt => ?_
  have hd : d < 16 := by omega
  rw [← Char.toNat_inj, ← Char.toNat_inj, toNat_digitChar hd, toNat_toUpper_digitChar hd]
  split <;> omega

theorem digit?_eq_some_iff {radix : Nat} (hradix : radix ≤ 16) {c : Char} {d : Nat} :
    digit? radix c = some d ↔ IsDigit radix c d := by
  have hle (a b : Char) : a ≤ b ↔ a.toNat ≤ b.toNat := Iff.rfl
  rw [isDigit_iff_toNat hradix, digit?, Option.filter_eq_some_iff, decide_eq_true_iff, and_comm]
  refine and_congr_right fun hlt => ?_
  simp only [hle, Char.reduceToNat]
  split
  · rw [Option.some.injEq]
    omega
  · split
    · rw [Option.some.injEq]
      omega
    · split
      · rw [Option.some.injEq]
        omega
      · simp only [reduceCtorEq, false_iff]
        omega

theorem not_isBlank_of_isDigit {radix : Nat} (hradix : radix ≤ 16) {c : Char} {d : Nat}
    (h : IsDigit radix c d) : isBlank c = false := by
  have := (isDigit_iff_toNat hradix).mp h
  exact isBlank_eq_false (by omega) (by omega)

theorem digits_append {radix : Nat} (hradix : radix ≤ 16) {ds rest : List Char} {vs : List Nat}
    (hds : List.Forall₂ (IsDigit radix) ds vs)
    (hrest : ∀ c ∈ rest.head?, ∀ d, ¬ IsDigit radix c d) : digits radix (ds ++ rest) = vs := by
  induction hds with
  | nil =>
      cases rest with
      | nil => rfl
      | cons c rest =>
          have hc : digit? radix c = none :=
            Option.eq_none_iff_forall_ne_some.mpr fun d hd =>
              hrest c rfl d ((digit?_eq_some_iff hradix).mp hd)
          rw [List.nil_append, digits, hc]
  | cons hd _ ih => rw [List.cons_append, digits, (digit?_eq_some_iff hradix).mpr hd, ih]

theorem exists_digits {radix : Nat} (hradix : radix ≤ 16) (cs : List Char) :
    ∃ ds vs rest, cs = ds ++ rest ∧ List.Forall₂ (IsDigit radix) ds vs ∧
      ∀ c ∈ rest.head?, ∀ d, ¬ IsDigit radix c d := by
  induction cs with
  | nil => exact ⟨[], [], [], rfl, .nil, by simp⟩
  | cons c cs ih =>
      cases hc : digit? radix c with
      | none =>
          refine ⟨[], [], c :: cs, rfl, .nil, fun e he d hd => ?_⟩
          cases he
          rw [(digit?_eq_some_iff hradix).mpr hd] at hc
          cases hc
      | some d =>
          obtain ⟨ds, vs, rest, rfl, hds, hrest⟩ := ih
          exact ⟨c :: ds, d :: vs, rest, rfl, .cons ((digit?_eq_some_iff hradix).mp hc) hds, hrest⟩

/-! ### The parts of a text -/

/-- The parts of a text that is read as an integer; the sign, the mark of radix sixteen and the
digits may be missing. -/
structure Layout where
  blanks : List Char
  sign : List Char
  mark : List Char
  digits : List Char
  /-- what the digits stand for, one by one -/
  values : List Nat
  rest : List Char

namespace Layout

variable (p : Layout)

/-- The part from the digits on. -/
def body : List Char := p.digits ++ p.rest

/-- The part behind the sign. -/
def unsigned : List Char := p.mark ++ p.body

/-- The part behind the blanks. -/
def signed : List Char := p.sign ++ p.unsigned

/-- The radix that the mark stands for. -/
def radix : Nat := if p.mark = [] then 10 else 16

/-- The value of the digits, however great. -/
def magnitude : Nat := Nat.ofDigits p.radix p.values.reverse

/-- The value with its sign. -/
def exact : Int := if p.sign = ['-'] then -(p.magnitude : Int) else p.magnitude

/-- The text has these parts, each of them as long as it can be. -/
structure Of (cs : List Char) : Prop where
  text : cs = p.blanks ++ p.signed
  blanks : ∀ c ∈ p.blanks, isBlank c = true
  signed : ∀ c ∈ p.signed.head?, isBlank c = false
  sign : p.sign = [] ∧ (∀ c ∈ p.unsigned.head?, c ≠ '-' ∧ c ≠ '+') ∨ p.sign = ['-'] ∨ p.sign = ['+']
  mark : p.mark = [] ∧ ¬ ['0', 'x'] <+: p.body ∧ ¬ ['0', 'X'] <+: p.body ∨
    p.mark = ['0', 'x'] ∨ p.mark = ['0', 'X']
  digits : List.Forall₂ (IsDigit p.radix) p.digits p.values
  rest : ∀ c ∈ p.rest.head?, ∀ d, ¬ IsDigit p.radix c d

variable {p}

theorem Of.trimLeft_eq {cs : List Char} (h : p.Of cs) : trimLeft cs = p.signed := by
  rw [h.text, trimLeft_append h.blanks]
  cases hs : p.signed with
  | nil => rfl
  | cons c rest => exact trimLeft_cons_of_not_blank (h.signed c (by rw [hs]; rfl)) rest

theorem radix_pos : 0 < p.radix := by
  unfold radix
  split <;> omega

theorem radix_le : p.radix ≤ 16 := by
  unfold radix
  split <;> omega

theorem value_lt (h : List.Forall₂ (IsDigit p.radix) p.digits p.values) {d : Nat}
    (hd : d ∈ p.values) : d < p.radix := by
  have hlt : ∀ d ∈ p.values, d < p.radix := by
    generalize p.digits = ds, p.values = vs at h
    induction h with
    | nil => exact fun d hd => absurd hd List.not_mem_nil
    | cons hc _ ih => exact List.forall_mem_cons.mpr ⟨hc.1, ih⟩
  exact hlt d hd

end Layout

theorem sign_append {sgn cs : List Char}
    (h : sgn = [] ∧ (∀ c ∈ cs.head?, c ≠ '-' ∧ c ≠ '+') ∨ sgn = ['-'] ∨ sgn = ['+']) :
    LooseInt.sign (sgn ++ cs) = (decide (sgn = ['-']), cs) := by
  rcases h with ⟨rfl, h⟩ | rfl | rfl
  · cases cs with
    | nil => rfl
    | cons c cs =>
        obtain ⟨hminus, hplus⟩ := h c rfl
        rw [List.nil_append, LooseInt.sign]
        · rfl
        · rintro cs ⟨⟩
          exact hminus rfl
        · rintro cs ⟨⟩
          exact hplus rfl
  · rfl
  · rfl

theorem radix_append {mark cs : List Char}
    (h : mark = [] ∧ ¬ ['0', 'x'] <+: cs ∧ ¬ ['0', 'X'] <+: cs ∨
      mark = ['0', 'x'] ∨ mark = ['0', 'X']) :
    LooseInt.radix (mark ++ cs) = (if mark = [] then 10 else 16, cs) := by
  rcases h with ⟨rfl, hx, hX⟩ | rfl | rfl
  · rw [List.nil_append, LooseInt.radix]
    · rfl
    · rintro cs rfl
      exact hx ⟨cs, rfl⟩
    · rintro cs rfl
      exact hX ⟨cs, rfl⟩
  · rfl
  · rfl

theorem exists_sign (cs : List Char) : ∃ sgn rest, cs = sgn ++ rest ∧
    (sgn = [] ∧ (∀ c ∈ rest.head?, c ≠ '-' ∧ c ≠ '+') ∨ sgn = ['-'] ∨ sgn = ['+']) := by
  by_cases h : ∀ c ∈ cs.head?, c ≠ '-' ∧ c ≠ '+'
  · exact ⟨[], cs, rfl, .inl ⟨rfl, h⟩⟩
  · cases cs with
    | nil => simp at h
    | cons c cs =>
        refine ⟨[c], cs, rfl, .inr ?_⟩
        by_contra hc
        simp_all

theorem exists_mark (cs : List Char) : ∃ mark rest, cs = mark ++ rest ∧
    (mark = [] ∧ ¬ ['0', 'x'] <+: rest ∧ ¬ ['0', 'X'] <+: rest ∨
      mark = ['0', 'x'] ∨ mark = ['0', 'X']) := by
  by_cases hx : ['0', 'x'] <+: cs
  · obtain ⟨rest, rfl⟩ := hx
    exact ⟨_, rest, rfl, .inr (.inl rfl)⟩
  · by_cases hX : ['0', 'X'] <+: cs
    · obtain ⟨rest, rfl⟩ := hX
      exact ⟨_, rest, rfl, .inr (.inr rfl)⟩
    · exact ⟨[], cs, rfl, .inl ⟨rfl, hx, hX⟩⟩

/-- **Every text has its parts.** -/
theorem exists_layout (cs : List Char) : ∃ p : Layout, p.Of cs := by
  obtain ⟨sgn, unsigned, hsigned, hsgn⟩ := exists_sign (trimLeft cs)
  obtain ⟨mark, body, rfl, hmark⟩ := exists_mark unsigned
  have hradix : (if mark = [] then 10 else 16) ≤ 16 := by split <;> omega
  obtain ⟨ds, vs, rest, rfl, hds, hrest⟩ := exists_digits hradix body
  refine ⟨⟨cs.takeWhile isBlank, sgn, mark, ds, vs, rest⟩, ?_, ?_, ?_, hsgn, hmark, hds, hrest⟩
  · change cs = cs.takeWhile isBlank ++ (sgn ++ (mark ++ (ds ++ rest)))
    rw [← hsigned]
    exact List.takeWhile_append_dropWhile.symm
  · exact fun c hc => List.mem_takeWhile_imp hc
  · change ∀ c ∈ (sgn ++ (mark ++ (ds ++ rest))).head?, isBlank c = false
    rw [← hsigned]
    intro c hc
    have hhead := List.head?_dropWhile_not isBlank cs
    rw [show (cs.dropWhile isBlank).head? = some c from hc] at hhead
    simpa using hhead

/-! ### What is read -/

theorem ofDigits_reverse (radix : Nat) (vs : List Nat) :
    Nat.ofDigits radix vs.reverse = vs.foldl (fun n d => radix * n + d) 0 := by
  rw [Nat.ofDigits_eq_foldr, List.foldr_reverse]
  simp only [Nat.cast_id, Nat.add_comm]

theorem holds_foldl {radix : Nat} (hpos : 0 < radix) (hradix : radix ≤ 16) {vs : List Nat}
    (hvs : ∀ d ∈ vs, d < radix) :
    (vs.foldl (Magnitude.push radix) (.within 0)).Holds (Nat.ofDigits radix vs.reverse) := by
  rw [ofDigits_reverse]
  refine (Magnitude.holds_within.mpr Int64.toInt_zero).foldl hpos ?_ fun d hd => ?_
  · unfold Word.maxSigned
    omega
  · have := hvs d hd
    unfold Word.maxSigned
    omega

/-- **What is read is told from the parts**: their value within the bounds of a signed word. -/
theorem readChars_of_layout {p : Layout} {cs : List Char} (h : p.Of cs) :
    readChars cs = if p.digits = [] then .nan
      else .number (max (-2 ^ 63) (min (2 ^ 63 - 1) p.exact)) := by
  have hsign : LooseInt.sign p.signed = (decide (p.sign = ['-']), p.unsigned) := sign_append h.sign
  have hmark : LooseInt.radix p.unsigned = (p.radix, p.body) := radix_append h.mark
  have hdigits : LooseInt.digits p.radix p.body = p.values :=
    digits_append Layout.radix_le h.digits h.rest
  have hfolded := holds_foldl Layout.radix_pos Layout.radix_le fun d => Layout.value_lt h.digits
  have hheld := hfolded.toInt_signed (decide (p.sign = ['-']))
  simp only [readChars, h.trimLeft_eq, hsign, hmark, hdigits]
  have hlength := h.digits.length_eq
  cases hv : p.values with
  | nil =>
      rw [hv, List.length_nil, List.length_eq_zero_iff] at hlength
      rw [if_pos hlength]
  | cons d ds =>
      have hne : p.digits ≠ [] := by
        rintro he
        rw [he, hv] at hlength
        cases hlength
      rw [hv] at hheld
      rw [if_neg hne]
      simp only [hheld, Layout.exact, Layout.magnitude, hv, decide_eq_true_eq]

/-! ### Decimal numerals -/

theorem isDigit_of_mem_toDigits {n : Nat} {c : Char} (h : c ∈ Nat.toDigits 10 n) :
    IsDigit 10 c (c.toNat - 48) := by
  have hc := Nat.isDigit_of_mem_toDigits (by decide) (by decide) h
  have hrange : 48 ≤ c.toNat ∧ c.toNat ≤ 57 := by
    simpa [Char.isDigit, UInt32.le_iff_toNat_le] using hc
  rw [isDigit_iff_toNat (by decide)]
  omega

theorem toNat_of_isDigit {c : Char} {d : Nat} (h : IsDigit 10 c d) :
    48 ≤ c.toNat ∧ c.toNat ≤ 57 := by
  have := (isDigit_iff_toNat (by decide)).mp h
  omega

/-- The parts of a decimal numeral. -/
def Layout.ofInt (n : Int) : Layout where
  blanks := []
  sign := if n < 0 then ['-'] else []
  mark := []
  digits := Nat.toDigits 10 n.natAbs
  values := (Nat.toDigits 10 n.natAbs).map fun c => c.toNat - 48
  rest := []

theorem Layout.ofInt_exact (n : Int) : (Layout.ofInt n).exact = n := by
  have hmagnitude : (Layout.ofInt n).magnitude = n.natAbs := by
    have hvalue : Nat.ofDigitChars 10 (Nat.toDigits 10 n.natAbs) 0 = n.natAbs :=
      Nat.ofDigitChars_ten_toDigits
    rw [Nat.ofDigitChars_eq_foldl] at hvalue
    rw [magnitude, ofDigits_reverse]
    change List.foldl _ 0 (List.map _ _) = _
    rw [List.foldl_map]
    exact hvalue
  unfold exact
  rw [hmagnitude]
  by_cases h : n < 0
  · rw [if_pos (show (Layout.ofInt n).sign = ['-'] from if_pos h)]
    omega
  · rw [if_neg (by rw [show (Layout.ofInt n).sign = [] from if_neg h]; simp)]
    omega

theorem Layout.ofInt_body (n : Int) : (ofInt n).body = Nat.toDigits 10 n.natAbs :=
  List.append_nil _

theorem Layout.ofInt_unsigned (n : Int) : (ofInt n).unsigned = Nat.toDigits 10 n.natAbs := by
  rw [unsigned, ofInt_body]
  rfl

theorem Layout.ofInt_signed (n : Int) :
    (ofInt n).signed = (if n < 0 then ['-'] else []) ++ Nat.toDigits 10 n.natAbs := by
  rw [signed, ofInt_unsigned]
  rfl

theorem layout_toString (n : Int) : (Layout.ofInt n).Of (toString n).toList := by
  have hdigit : ∀ c ∈ Nat.toDigits 10 n.natAbs, IsDigit 10 c (c.toNat - 48) :=
    fun c => isDigit_of_mem_toDigits
  have hhead : ∀ c ∈ (Nat.toDigits 10 n.natAbs).head?, IsDigit 10 c (c.toNat - 48) :=
    fun c hc => hdigit c (List.mem_of_mem_head? hc)
  have hmark {c : Char} (hc : ¬ IsDigit 10 c (c.toNat - 48)) :
      ¬ ['0', c] <+: (Layout.ofInt n).body := by
    intro hbegin
    rw [Layout.ofInt_body] at hbegin
    exact hc (hdigit c (hbegin.subset (by simp)))
  have hsign {c : Char} (h : c ∈ (Layout.ofInt n).unsigned.head?) : c ≠ '-' ∧ c ≠ '+' := by
    rw [Layout.ofInt_unsigned] at h
    have hrange := toNat_of_isDigit (hhead c h)
    constructor
    · rintro rfl
      exact absurd hrange (by decide)
    · rintro rfl
      exact absurd hrange (by decide)
  refine ⟨?_, List.forall_mem_nil _, ?_, ?_, .inl ⟨rfl, ?_, ?_⟩, ?_, ?_⟩
  · rw [toList_toString, Layout.ofInt_signed]
    rfl
  · rw [Layout.ofInt_signed]
    split
    · rintro c ⟨⟩
      rfl
    · exact fun c hc => not_isBlank_of_isDigit (by decide) (hhead c hc)
  · by_cases h : n < 0
    · exact .inr (.inl (if_pos h))
    · exact .inl ⟨if_neg h, fun c => hsign⟩
  · exact hmark fun h => absurd (toNat_of_isDigit h) (by decide)
  · exact hmark fun h => absurd (toNat_of_isDigit h) (by decide)
  · exact List.forall₂_map_right_iff.mpr (List.forall₂_same.mpr hdigit)
  · rintro c ⟨⟩

/-- **A numeral is read back.** -/
theorem readChars_toString (n : Int64) :
    readChars (toString n.toInt).toList = .number n.toInt := by
  have hne : (Layout.ofInt n.toInt).digits ≠ [] := Nat.toDigits_ne_nil
  rw [readChars_of_layout (layout_toString n.toInt), if_neg hne, Layout.ofInt_exact]
  have hle := n.le_toInt
  have hlt := n.toInt_lt
  congr 1
  omega

/-- **Reading clamps the number that a text begins with.**  Every text has its parts: blanks, at
most one sign, the mark of radix sixteen if there is one, and all digits that follow.  What is read
is nothing without a digit, and else the value of the digits with its sign, brought within the
bounds of a signed word, whatever comes behind the digits.  So it is the value itself exactly if
that lies within the bounds.  On the way, after any number of the digits, the state of the
accumulation stands for their exact value, and a value that is still in a word is negated exactly.
The decimal numeral of every signed word is read back. -/
theorem read_clamps :
    (∀ s : String, ∃ p : Layout, p.Of s.toList) ∧
    (∀ (s : String) (p : Layout), p.Of s.toList →
      (read s = if p.digits = [] then .nan
        else .number (max (-2 ^ 63) (min (2 ^ 63 - 1) p.exact))) ∧
      (read s = .number p.exact ↔
        p.digits ≠ [] ∧ -2 ^ 63 ≤ p.exact ∧ p.exact ≤ 2 ^ 63 - 1) ∧
      ∀ vs, vs <+: p.values →
        (vs.foldl (Magnitude.push p.radix) (.within 0)).Holds (Nat.ofDigits p.radix vs.reverse) ∧
        ∀ w, vs.foldl (Magnitude.push p.radix) (.within 0) = .within w → (-w).toInt = -w.toInt) ∧
    ∀ n : Int64, read (toString n.toInt) = .number n.toInt := by
  refine ⟨fun s => exists_layout s.toList, fun s p h => ?_, readChars_toString⟩
  have hread : read s = _ := readChars_of_layout h
  refine ⟨hread, ?_, fun vs hvs => ?_⟩
  · rw [hread]
    split
    · simp [*]
    · simp only [number.injEq, ne_eq, *, not_false_eq_true, true_and]
      omega
  · have hlt : ∀ d ∈ vs, d < p.radix := fun d hd => Layout.value_lt h.digits (hvs.subset hd)
    have hheld := holds_foldl Layout.radix_pos Layout.radix_le hlt
    exact ⟨hheld, fun w hw => Magnitude.Holds.toInt_neg (hw ▸ hheld)⟩

/-- The least signed word in radix sixteen, and what may stand around it. -/
def sampleLayout : Layout :=
  ⟨['\t'], ['-'], ['0', 'X'], '0' :: '8' :: List.replicate 15 '0', 0 :: 8 :: List.replicate 15 0,
    ['u', 'l']⟩

/-- The least signed word is read exactly, although its magnitude does not fit a word. -/
theorem sampleLayout_read :
    sampleLayout.Of "\t-0X08000000000000000ul".toList ∧
      read "\t-0X08000000000000000ul" = .number (-2 ^ 63) := by
  have hzero : IsDigit 16 '0' 0 := ⟨by decide, .inl rfl⟩
  have height : IsDigit 16 '8' 8 := ⟨by decide, .inl rfl⟩
  have hu : ∀ d, ¬ IsDigit 16 'u' d := fun d hd => by
    have := (isDigit_iff_toNat (by decide)).mp hd
    simp only [Char.reduceToNat] at this
    omega
  have h : sampleLayout.Of "\t-0X08000000000000000ul".toList :=
    { text := by decide
      blanks := List.forall_mem_singleton.mpr rfl
      signed := by rintro c ⟨⟩; rfl
      sign := .inr (.inl rfl)
      mark := .inr (.inr rfl)
      digits := by simp [sampleLayout, Layout.radix, List.replicate_succ, hzero, height]
      rest := by rintro c ⟨⟩; exact hu }
  have hread := (read_clamps.2.1 _ _ h).1
  rw [if_neg (by decide)] at hread
  exact ⟨h, hread.trans (by decide)⟩

end LooseInt

end Walkthrough
